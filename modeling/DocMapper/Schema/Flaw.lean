import DocMapper.Fault
/-!
# Flaws

Checks collect all flaws of a value rather than the first one, so their results are `Checked` values.
A limit that a value cannot be held against is no flaw: it ends the whole check
(`Refusal.incomparable`).
-/

namespace DocMapper

namespace Flaw

/-- The flaw of a value as a whole. -/
def here (reason : Reason) (given : Value) : Flaw := ⟨[], reason, given⟩

/-- The flaw as seen from a value that holds this one at a member or position. -/
def under (member : String) (flaw : Flaw) : Flaw :=
  { flaw with location := member :: flaw.location }

/-- The location as one text. -/
def path (flaw : Flaw) : String := ".".intercalate flaw.location

/-- The flaw as an issue; the value as a whole has an empty path. -/
def toIssue (flaw : Flaw) : Issue :=
  { path := flaw.path, reason := flaw.reason.text, flaw := flaw }

/-- The path and the reason of a flaw as an issue in which an empty path is spelled out. -/
def toNamedIssue (flaw : Flaw) : Issue where
  path := if flaw.path.isEmpty then "<root>" else flaw.path
  reason := flaw.reason.text

end Flaw

namespace Reason

/-- A member is not there. -/
def missing : Reason := ⟨"missing", "Field required"⟩

/-- A value is neither a dictionary nor an instance of a schema. -/
def notInstance (schema : String) : Reason :=
  ⟨"model_type", "Input should be a valid dictionary or instance of " ++ schema⟩

/-- A value is no list. -/
def notList : Reason := ⟨"list_type", "Input should be a valid list"⟩

/-- A value is no dictionary. -/
def notDict : Reason := ⟨"dict_type", "Input should be a valid dictionary"⟩

/-- A value lies below the depth to which schemas take the places of their names. -/
def tooDeep : Reason := ⟨"recursion_loop", "Recursion error - cyclic reference detected"⟩

end Reason

/-- Why a check fails. -/
inductive Refusal
  /-- all places where the value does not match -/
  | mismatch (flaws : List Flaw)
  /-- a limit that the value cannot be held against -/
  | incomparable

namespace Refusal

/-- The reason to refuse two values of which each is refused. -/
def and : Refusal → Refusal → Refusal
  | .mismatch a, .mismatch b => .mismatch (a ++ b)
  | _, _ => .incomparable

/-- The reason as seen from a value that holds the refused one at a member or position. -/
def under (member : String) : Refusal → Refusal
  | .mismatch flaws => .mismatch (flaws.map (Flaw.under member))
  | .incomparable => .incomparable

/-- The fault that a refusal is, given the one that flaws are. -/
def toFault (invalid : List Flaw → Fault) : Refusal → Fault
  | .mismatch flaws => invalid flaws
  | .incomparable => .misuse .wrongKind

end Refusal

/-- The outcome of a check: a value, or why it is refused. -/
abbrev Checked (α : Type) := Except Refusal α

namespace Checked

variable {α β : Type}

/-- A check that fails with one reason, given what was checked. -/
def reject (reason : Reason) (given : Value) : Checked α :=
  .error (.mismatch [Flaw.here reason given])

/-- The outcome as seen from a value that holds this one at a member or position. -/
def under (member : String) (c : Checked α) : Checked α := c.mapError (Refusal.under member)

/-- Puts two outcomes together. -/
def both (a : Checked α) (b : Checked β) : Checked (α × β) :=
  match a, b with
  | .ok a, .ok b => .ok (a, b)
  | .ok _, .error r => .error r
  | .error r, .ok _ => .error r
  | .error r, .error s => .error (r.and s)

/-- Puts outcomes together: all values, or all flaws. -/
def all : List (Checked α) → Checked (List α)
  | [] => .ok []
  | c :: rest => (both c (all rest)).map fun (v, vs) => v :: vs

/-- Reads a member of a dictionary; it has to be there. -/
def member (members : Dict Value) (name : String) (read : Value → Checked α) : Checked α :=
  match members.get? name with
  | some v => under name (read v)
  | none => under name (reject .missing (.dict members))

/-- Reads a member of a dictionary that may be left out. -/
def memberOr (fallback : α) (members : Dict Value) (name : String) (read : Value → Checked α) :
    Checked α :=
  match members.get? name with
  | some v => under name (read v)
  | none => .ok fallback

/-- The value of a check, or the fault of a built-in structure that does not match. -/
def orReject (title : String) (c : Checked α) : Except Fault α :=
  c.mapError (Refusal.toFault fun flaws => .rejected title (flaws.map Flaw.toIssue))

end Checked

end DocMapper
