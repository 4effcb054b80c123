import DocMapper.Http.Host
import DocMapper.Number.Spelling
/-!
# Addresses

An address says where requests go: a scheme, an authority made of a user, a host and a port, a path,
a query and a fragment, of which most may be missing. `Address.parse` takes an address apart and puts
its parts into their normal form: scheme and host in small letters, without the port that the scheme
has anyway, without steps back in the path, and with percent signs in front of the bytes of
characters that an address cannot hold as they are. `Address.text` puts it together again.
-/

namespace DocMapper.Http

/-- An address, in its parts. -/
structure Address where
  scheme : String := ""
  user : String := ""
  host : String := ""
  port : Option Int := none
  path : String := ""
  query : Option String := none
  fragment : Option String := none

namespace Address

/-! ## Marks that a part cannot hold as they are -/

/-- The marks that a fragment cannot hold. -/
def fragmentMarks : List Char := ['"', '<', '>', '`']

/-- The marks that a query cannot hold. -/
def queryMarks : List Char := ['"', '#', '<', '>']

/-- The marks that a path cannot hold. -/
def pathMarks : List Char := queryMarks ++ ['?', '`', '\x7b', '\x7d']

/-- The marks that a user cannot hold. -/
def userMarks : List Char := pathMarks ++ ['/', ';', '=', '@', '[', '\\', ']', '^', '|']

/-! ## Ports -/

/-- The port that a scheme has anyway. -/
def defaultPort? : String → Option Int
  | "http" => some 80
  | "https" => some 443
  | "ftp" => some 21
  | "ws" => some 80
  | "wss" => some 443
  | _ => none

/-- The number that the text of a port spells, with spaces around it or single underscores inside. -/
def portNumber? (port : List Char) : Option Int :=
  let (negative, digits) := Decimal.splitSign (Text.trimmed Text.isSpacing port)
  let digits := (Spelling.withoutUnderscores? digits).getD digits
  if digits.isEmpty || !digits.all isDigit || Spelling.longest < digits.length then none
  else some (Decimal.toInt ⟨negative, digits, [], 0, false⟩)

/-- The port of an address with a scheme, none if the scheme has it anyway, or why there is no such
port. -/
def normalizePort (scheme : String) (port : List Char) : Except String (Option Int) :=
  if port.isEmpty then .ok none
  else
    match portNumber? port with
    | none => .error ("Invalid port: " ++ Text.quoted (String.ofList port))
    | some n => .ok (if defaultPort? scheme = some n then none else some n)

/-! ## Paths -/

/-- Takes one more step of a path: a dot stays where it is, two dots go back. -/
def step (taken : List (List Char)) (part : List Char) : List (List Char) :=
  if part = ['.'] then taken
  else if part = ['.', '.'] then
    if taken.isEmpty ∨ taken = [[]] then taken else taken.dropLast
  else taken ++ [part]

/-- A path without steps that stay or go back. -/
def normalizePath (path : List Char) : List Char :=
  let parts := Domain.split (· = '/') path
  if parts.contains ['.'] ∨ parts.contains ['.', '.'] then
    ['/'].intercalate (parts.foldl step [])
  else path

/-- Why a path cannot follow what stands before it. -/
def pathFlaw? (absolute authority : Bool) (path : List Char) : Option String :=
  if authority then
    if path.isEmpty ∨ path.head? = some '/' then none
    else some "For absolute URLs, path must be empty or begin with '/'"
  else if absolute then none
  else if path.take 2 = ['/', '/'] then some "Relative URLs cannot have a path starting with '//'"
  else if path.head? = some ':' then some "Relative URLs cannot have a path starting with ':'"
  else none

/-! ## Taking apart -/

/-- The scheme of an address, and what follows it. -/
def splitScheme (address : List Char) : List Char × List Char :=
  let scheme := address.takeWhile fun c => c.isAlphanum || c = '+' || c = '-' || c = '.'
  match address.drop scheme.length with
  | ':' :: rest =>
    if scheme.head?.all Char.isAlpha then (scheme, rest) else ([], address)
  | _ => ([], address)

/-- The authority of an address behind its scheme, and what follows it. -/
def splitAuthority (rest : List Char) : List Char × List Char :=
  match rest with
  | '/' :: '/' :: rest =>
    let authority := rest.takeWhile fun c => c ≠ '/' ∧ c ≠ '?' ∧ c ≠ '#'
    (authority, rest.drop authority.length)
  | rest => ([], rest)

/-- The user, the host and the port of an authority. -/
def splitUser (authority : List Char) : List Char × List Char × List Char :=
  let place := (authority.reverse.takeWhile (· ≠ '@')).reverse
  let user := authority.take (authority.length - place.length - 1)
  let bracketed := (place.reverse.dropWhile (· ≠ ']')).reverse
  let host := if place.head? = some '[' ∧ !bracketed.isEmpty then bracketed
    else place.takeWhile (· ≠ ':')
  match place.drop host.length with
  | ':' :: port => (user, host, port)
  | port => (user, host, port)

/-- What follows a mark, if there is anything. -/
def behind : List Char → Option (List Char)
  | [] => none
  | _ :: rest => some rest

/-- The first control character of an address, as a reason against it. -/
def controlFlaw? (address : List Char) : Option String :=
  let before := address.takeWhile fun c => 32 ≤ c.toNat && c.toNat ≠ 127
  (address.drop before.length).head?.map fun c =>
    "Invalid non-printable ASCII character in URL, " ++ Text.quoted (String.singleton c)
      ++ " at position " ++ toString before.length ++ "."

/-- The longest address. -/
def longest : Nat := 65536

/-- Takes an address apart, or tells what is wrong with it. -/
def parse (source : String) : Except String Address := do
  let source := source.toList
  if longest < source.length then throw "URL too long"
  if let some flaw := controlFlaw? source then throw flaw
  let (scheme, rest) := splitScheme source
  let (authority, rest) := splitAuthority rest
  let path := rest.takeWhile fun c => c ≠ '?' ∧ c ≠ '#'
  let rest := rest.drop path.length
  let query := rest.takeWhile (· ≠ '#')
  let fragment := rest.drop query.length
  let (user, host, port) := splitUser authority
  let user := escape userMarks user
  let host ← Host.normalize host
  let port ← normalizePort (String.ofList scheme) port
  let hasAuthority := !user.isEmpty || !host.isEmpty || port.isSome
  if let some flaw := pathFlaw? (!scheme.isEmpty) hasAuthority path then throw flaw
  let path := if hasAuthority || !scheme.isEmpty then normalizePath path else path
  return {
    scheme := Text.small (String.ofList scheme), user := user, host := host, port := port
    path := escape pathMarks path
    query := (behind query).map (escape queryMarks)
    fragment := (behind fragment).map (escape fragmentMarks) }

/-! ## Putting together -/

/-- The text of an address. -/
def text (a : Address) : String :=
  let authority :=
    (if a.user.isEmpty then "" else a.user ++ "@")
      ++ (if a.host.toList.contains ':' then "[" ++ a.host ++ "]" else a.host)
      ++ a.port.elim "" fun n => ":" ++ toString n
  (if a.scheme.isEmpty then "" else a.scheme ++ ":")
    ++ (if authority.isEmpty then "" else "//" ++ authority)
    ++ a.path ++ a.query.elim "" ("?" ++ ·) ++ a.fragment.elim "" ("#" ++ ·)

/-- An address as the one that requests go to. Without a scheme or a host only its path and query
count, from the root on. -/
def rooted (a : Address) : Address :=
  if a.scheme.isEmpty ∨ a.host.isEmpty then
    { path := "/" ++ String.ofList (a.path.toList.dropWhile (· = '/')), query := a.query }
  else a

/-! ## Users -/

/-- The bytes of a text in which percent signs stand for bytes. -/
def unescape : List Char → List UInt8
  | '%' :: a :: b :: rest =>
    if Host.isHexDigit a && Host.isHexDigit b then
      UInt8.ofNat (digit a * 16 + digit b) :: unescape rest
    else (String.singleton '%').toUTF8.toList ++ unescape (a :: b :: rest)
  | c :: rest => (String.singleton c).toUTF8.toList ++ unescape rest
  | [] => []
where
  digit (c : Char) : Nat :=
    if c.isDigit then c.toNat - '0'.toNat
    else if 'a' ≤ c then c.toNat - 'a'.toNat + 10
    else c.toNat - 'A'.toNat + 10

/-- The name and the password of the user, as bytes with a colon between them, if there are any. -/
def credentials? (a : Address) : Option (List UInt8) :=
  let user := a.user.toList
  let name := user.takeWhile (· ≠ ':')
  let password := user.drop (name.length + 1)
  if name.isEmpty ∧ password.isEmpty then none
  else some (unescape name ++ (String.singleton ':').toUTF8.toList ++ unescape password)

end Address

end DocMapper.Http
