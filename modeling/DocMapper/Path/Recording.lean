import DocMapper.Value.Subscript
/-!
# Recordings

An accessor is a recipe that reads a field off a document. It is replayed on a `Recording`: a
stand-in for a document that keeps the keys read so far. Reading a member adds its name, and reading
an item adds the text of its key.

The stand-in has a few members of its own: its record of keys, and the members that every object is
born with, whose names begin and end with two underscores. Reading one of these leaves the document
and adds nothing; where the reading then stands is its `Place`, and the names that can be read on
from there are those of that place. Any other name with two underscores at both ends is refused.
-/

namespace DocMapper

/-- Where the replay of an accessor stands. -/
inductive Place
  /-- somewhere in the stand-in document -/
  | document
  /-- at the list of recorded keys -/
  | record
  /-- at a recorded key or at a character of one -/
  | text (value : String)
  /-- at a function that belongs to a place; the document has some that are its own -/
  | function (owner : Place) (own : Bool)
  /-- at the kind of the stand-in document -/
  | kind
  /-- at anything else -/
  | outside
  deriving DecidableEq

namespace Place

/-- A name between two underscores at either end. -/
def dunder (name : String) : String := "__" ++ name ++ "__"

/-- The words of a text, set apart by blanks. -/
def words (text : String) : List String :=
  (text.toList.splitOn ' ').filterMap fun w => if w.isEmpty then none else some (String.ofList w)

/-- The names of the members that every object is born with. -/
def inborn : List String :=
  (words ("class delattr dir doc eq format ge getattribute getstate gt hash init init_subclass le "
    ++ "lt ne new reduce reduce_ex repr setattr sizeof str subclasshook")).map dunder

/-- The names of the functions that are the document's own. -/
def ownFunctions : List String := (words "getattr getitem init setattr").map dunder

/-- The names of the members of a list beyond the inborn ones. -/
def listMembers : List String :=
  words "append clear copy count extend index insert pop remove reverse sort"
    ++ (words ("add class_getitem contains delitem getitem iadd imul iter len mul reversed rmul "
      ++ "setitem")).map dunder

/-- The names of the members of a text beyond the inborn ones. -/
def textMembers : List String :=
  words ("capitalize casefold center count encode endswith expandtabs find format format_map index "
    ++ "isalnum isalpha isascii isdecimal isdigit isidentifier islower isnumeric isprintable "
    ++ "isspace istitle isupper join ljust lower lstrip maketrans partition removeprefix "
    ++ "removesuffix replace rfind rindex rjust rpartition rsplit rstrip split splitlines "
    ++ "startswith strip swapcase title translate upper zfill")
    ++ (words "add contains getitem getnewargs iter len mod mul rmod rmul").map dunder

/-- The names of the members of a function beyond the inborn ones. -/
def functionMembers (own : Bool) : List String :=
  (words "call name qualname self" ++ words (if own then
    "annotations builtins closure code defaults dict func get globals kwdefaults module"
    else "text_signature")).map dunder

/-- The names of the members of the document's kind beyond the inborn ones. -/
def kindMembers : List String :=
  ["mro", "_keys"] ++ ownFunctions
    ++ (words ("annotations base bases basicsize call dict dictoffset flags instancecheck itemsize "
      ++ "module mro name or prepare qualname ror slots subclasscheck subclasses text_signature "
      ++ "weakrefoffset")).map dunder

/-- The names of the members of a place beyond the inborn ones. -/
def members : Place → List String
  | document => dunder "module" :: dunder "slots" :: ownFunctions
  | record => listMembers
  | text _ => textMembers
  | function _ own => functionMembers own
  | kind => kindMembers
  | outside => []

/-- The inborn members that are no functions of their owner. -/
def inbornValues : List String :=
  (words "class doc hash init_subclass new subclasshook module slots").map dunder

/-- Where the member of a name leads, if there is one. -/
def member? (place : Place) (name : String) : Option Place :=
  if !(inborn.contains name || place.members.contains name) then none
  else
    match place with
    | function owner _ => some (if name = dunder "self" then owner else outside)
    | kind => some outside
    | outside => some outside
    | document =>
      if name = dunder "class" then some kind
      else if inbornValues.contains name && name ≠ dunder "hash" then some outside
      else some (function document (ownFunctions.contains name))
    | place => some (if inbornValues.contains name then outside else function place false)

end Place

/-- The keys that an accessor has read so far, and where it stands. -/
structure Recording where
  keys : List String
  place : Place
  deriving DecidableEq

namespace Recording

/-- Nothing read yet. -/
def start : Recording := ⟨[], .document⟩

/-- Whether a name is reserved: it begins and ends with two underscores. -/
def reserved (name : String) : Bool :=
  let chars := name.toList
  ['_', '_'].isPrefixOf chars && ['_', '_'].isSuffixOf chars

/-- The name under which a recording answers with its own keys. -/
def ownMember : String := "_keys"

/-- Reads a key. -/
def read (r : Recording) (key : String) : Recording := ⟨r.keys ++ [key], .document⟩

/-- Reads a member. -/
def readMember (r : Recording) (name : String) : Except Fault Recording :=
  match r.place.member? name with
  | some place => .ok { r with place := place }
  | none =>
    if r.place ≠ .document then .error noMember
    else if name = ownMember then .ok { r with place := .record }
    else if reserved name then .error noMember
    else .ok (r.read name)

/-- The element at a position of some texts. -/
def pick (texts : List String) (position : Option Int) : Except Fault Place :=
  match position with
  | none => .error wrongKind
  | some n =>
    match (position? texts.length n).bind fun i => texts[i]? with
    | some s => .ok (.text s)
    | none => .error outOfRange

/-- Reads the item at a key, which is a position too if it is an integer. -/
def readItem (r : Recording) (key : String) (position : Option Int) : Except Fault Recording :=
  match r.place with
  | .document => .ok (r.read key)
  | .record => do return { r with place := ← pick r.keys position }
  | .text s => do return { r with place := ← pick (s.toList.map String.singleton) position }
  | _ => .error wrongKind

/-- Takes one step of an accessor. -/
def step (r : Recording) : Step → Except Fault Recording
  | .restart => .ok { r with place := .document }
  | .attribute name => r.readMember name
  | .item key position => r.readItem key position
  | .assign _ =>
    match r.place with
    | .document => .error wrongKind
    | _ => .error noMember

/-- Replays the steps of an accessor. -/
def replay (steps : List Step) (r : Recording) : Except Fault Recording :=
  match steps with
  | [] => .ok r
  | s :: rest => do
    let r ← r.step s
    replay rest r

end Recording

/-- The keys that an accessor reads. -/
def accessedKeys (steps : List Step) : Except Fault (List String) := do
  let recording ← Recording.replay steps .start
  return recording.keys

end DocMapper
