import DocMapper.Schema.Scalar
import DocMapper.Text.Case
import DocMapper.Value.Subscript
/-!
# Settings

Settings come from named values that a caller gives, then from environment variables, then from the
defaults. An environment variable belongs to a setting when its name is the setting's with
`DOCMODEL_` in front, in letters of any case; a caller may ask for another beginning and for exact
letters, and may let empty variables and those of one chosen text count as nothing (`Lookup`).

`Settings.read` puts them together; `Settings.endpoint` is where the database is found.
-/

namespace DocMapper

/-- How the database is reached, and what is logged. -/
structure Settings where
  secret : String := ""
  scheme : String := "https"
  domain : String := "db.fauna.com"
  port : Int := 443
  timeout : Binary64 := .ofInt 60
  debug : Bool := false
  logLevel : String := "INFO"
  logHistory : Int := 500

namespace Settings

/-- The names of the settings. -/
def names : List String :=
  ["SECRET", "SCHEME", "DOMAIN", "PORT", "TIMEOUT", "DEBUG", "LOG_LEVEL", "LOG_HISTORY"]

/-- How the variables of an environment are found and read. -/
structure Lookup where
  /-- what the names of variables begin with -/
  lead : String := "DOCMODEL_"
  /-- whether names have to be in the case of the settings -/
  cased : Bool := false
  /-- whether empty variables count as missing ones -/
  skipsEmpty : Bool := false
  /-- the text that gives a setting no value -/
  nothing : Option String := none

/-- The elements of a value are texts that may be paths, or the value is one itself. -/
def requirePaths (v : Value) : Except Fault Unit :=
  match v with
  | .null => .ok ()
  | .text _ => .ok ()
  | v => do
    if (← v.items).any fun path => !(path matches .text _) then throw wrongKind

/-- What the names of variables begin with, if a caller says so. -/
def leadOf (given : Value) : Except Fault String :=
  match given with
  | .null => .ok ({} : Lookup).lead
  | .text lead => .ok lead
  | _ => .error (.misuse .unfitName)

namespace Lookup

/-- The way of reading variables that a caller asks for among the values that it gives. -/
def ofMembers (m : Dict Value) : Except Fault Lookup := do
  let asked (name : String) : Value := (m.get? (.text name)).getD .null
  let lead := asked "_env_prefix"
  unless lead matches .null do
    let _ ← lead.length
  requirePaths (asked "_env_file")
  let lead ← leadOf lead
  requirePaths (asked "_secrets_dir")
  return {
    lead := lead
    cased := (asked "_case_sensitive").truthy
    skipsEmpty := (asked "_env_ignore_empty").truthy
    nothing := match asked "_env_parse_none_str" with
      | .text nothing => some nothing
      | _ => none }

/-- A name in the form in which names are compared. -/
def folded (l : Lookup) (name : String) : String := if l.cased then name else Text.small name

/-- The value of a variable. -/
def valueOf (l : Lookup) (text : String) : Value :=
  if l.nothing = some text then .null else .text text

/-- What an environment has for the settings; of two variables for one setting the later counts. -/
def read (l : Lookup) (environment : List (String × String)) : Dict Value :=
  let visible := environment.filter fun (_, text) => !(l.skipsEmpty && text.isEmpty)
  Dict.ofFields (names.filterMap fun name =>
    let wanted := l.folded (l.lead ++ name)
    (visible.reverse.find? fun entry => l.folded entry.1 == wanted).map fun entry =>
      (name, l.valueOf entry.2))

end Lookup

/-- Takes settings from the members of a dictionary. -/
def ofMembers (m : Dict Value) : Checked Settings :=
  let member {α : Type} (fallback : α) (name : String) (read : Value → Checked α) : Checked α :=
    Checked.memberOr fallback m name read
  let defaults : Settings := {}
  let place := Checked.both
    (Checked.both (member defaults.secret "SECRET" Value.asText)
      (member defaults.scheme "SCHEME" Value.asText))
    (Checked.both (member defaults.domain "DOMAIN" Value.asText)
      (member defaults.port "PORT" Value.asInt))
  let manner := Checked.both
    (Checked.both (member defaults.timeout "TIMEOUT" Value.asFloat)
      (member defaults.debug "DEBUG" Value.asBool))
    (Checked.both (member defaults.logLevel "LOG_LEVEL" Value.asText)
      (member defaults.logHistory "LOG_HISTORY" Value.asInt))
  (Checked.both place manner).map
    fun (((secret, scheme), domain, port), (timeout, debug), logLevel, logHistory) =>
      ⟨secret, scheme, domain, port, timeout, debug, logLevel, logHistory⟩

/-- Puts settings together from an environment and the values that a caller gives. -/
def read (environment : List (String × String)) (given : Value) : Except Fault Settings := do
  let given ← given.named
  let lookup ← Lookup.ofMembers given
  Checked.orReject "Settings" (ofMembers (Dict.putAll (lookup.read environment) given))

/-- Where the database is found. -/
def endpoint (s : Settings) : String :=
  s.scheme ++ "://" ++ s.domain ++ ":" ++ toString s.port ++ "/"

/-- The value that stands for settings. -/
def toValue (s : Settings) : Value :=
  .object [("SECRET", .text s.secret), ("SCHEME", .text s.scheme), ("DOMAIN", .text s.domain),
    ("PORT", .int s.port), ("TIMEOUT", .float s.timeout), ("DEBUG", .bool s.debug),
    ("LOG_LEVEL", .text s.logLevel), ("LOG_HISTORY", .int s.logHistory)]

end Settings

end DocMapper
