import DocMapper.Proofs.Schema.Building
/-!
# Sequences of inputs

The elements of a sequence are checked as one, but not otherwise than each of them alone. All
instances are built or none, and a sequence is refused for the flaws of its elements, one element
after the other, each flaw located by the position of its element in front of its own location
(`Schema.parseBulk_list`). A limit that one element cannot be held against ends the check of the
whole sequence, as it does that of the element.
-/

namespace DocMapper

/-! ## Flaws put together -/

/-- The flaws that a check finds: none where it passes or cannot be made. -/
def Checked.flaws {α : Type} : Checked α → List Flaw
  | .error (.mismatch flaws) => flaws
  | _ => []

/-- The flaw of an element as an issue of the sequence: the position of the element, followed by
where in the element the flaw is, unless it is the element as a whole. -/
def Flaw.toIssueAt (i : Nat) (flaw : Flaw) : Issue where
  path := if flaw.location = [] then toString i else toString i ++ "." ++ flaw.path
  reason := flaw.reason.text

/-- A position is never empty, so that no flaw of an element needs to be named otherwise. -/
theorem Flaw.toNamedIssue_under (i : Nat) (flaw : Flaw) :
    (flaw.under (toString i)).toNamedIssue = flaw.toIssueAt i := by
  obtain ⟨location, reason, given⟩ := flaw
  cases location with
  | nil => simp [toNamedIssue, toIssueAt, under, path, String.isEmpty_iff]
  | cons member rest =>
    simp [toNamedIssue, toIssueAt, under, path, String.intercalate_cons_cons, String.isEmpty_iff,
      String.append_eq_empty_iff]

namespace Checked

variable {α : Type}

theorem flaws_under (member : String) (c : Checked α) :
    (c.under member).flaws = c.flaws.map (Flaw.under member) := by
  cases c with
  | ok => rfl
  | error r => cases r <;> rfl

theorem under_eq_incomparable {member : String} {c : Checked α} :
    c.under member = .error .incomparable ↔ c = .error .incomparable := by
  cases c with
  | ok => exact ⟨nofun, nofun⟩
  | error r => cases r <;> simp [under, Except.mapError, Refusal.under]

/-- **Outcomes fail together** because one of them could not be had, or for the flaws of all. -/
theorem all_eq_error {cs : List (Checked α)} {r : Refusal} (h : all cs = .error r) :
    (r = .incomparable ∧ .error .incomparable ∈ cs) ∨
      (r = .mismatch (cs.flatMap flaws) ∧ .error .incomparable ∉ cs) := by
  induction cs generalizing r with
  | nil => cases h
  | cons c rest ih =>
    rw [all] at h
    cases hrest : all rest with
    | ok vs =>
      obtain rfl := all_eq_ok.1 hrest
      have hflaws : (vs.map Except.ok).flatMap (flaws (α := α)) = [] := by
        simp [List.flatMap_map, flaws]
      cases c with
      | ok v => simp [hrest, both, Except.map] at h
      | error s =>
        have hr : s = r := by simpa [hrest, both, Except.map] using h
        cases s with
        | incomparable => exact .inl ⟨hr.symm, List.mem_cons_self⟩
        | mismatch found =>
          refine .inr ⟨?_, by simp⟩
          rw [List.flatMap_cons, hflaws, List.append_nil, ← hr]
          rfl
    | error t =>
      have hothers := ih hrest
      cases c with
      | ok v =>
        have hr : t = r := by simpa [hrest, both, Except.map] using h
        subst hr
        simpa [flaws] using hothers
      | error s =>
        have hr : s.and t = r := by simpa [hrest, both, Except.map] using h
        subst hr
        rcases hothers with ⟨rfl, hmem⟩ | ⟨rfl, hmem⟩
        · exact .inl ⟨by cases s <;> rfl, List.mem_cons_of_mem _ hmem⟩
        · cases s with
          | incomparable => exact .inl ⟨rfl, List.mem_cons_self⟩
          | mismatch found => exact .inr ⟨by simp [Refusal.and, flaws], by simpa using hmem⟩

theorem flaws_all {cs : List (Checked α)} (h : all cs ≠ .error .incomparable) :
    (all cs).flaws = cs.flatMap flaws := by
  cases hall : all cs with
  | ok vs =>
    rw [all_eq_ok.1 hall]
    simp [List.flatMap_map, flaws]
  | error r =>
    rcases all_eq_error hall with ⟨rfl, -⟩ | ⟨rfl, -⟩
    · exact absurd hall h
    · rfl

/-- Outcomes cannot be had together exactly if one of them cannot. -/
theorem both_eq_incomparable {β : Type} {x : Checked α} {y : Checked β} :
    both x y = .error .incomparable ↔ x = .error .incomparable ∨ y = .error .incomparable := by
  cases x with
  | ok => cases y <;> simp [both]
  | error r =>
    cases y with
    | ok => simp [both]
    | error s => cases r <;> cases s <;> simp [both, Refusal.and]

theorem all_eq_incomparable {cs : List (Checked α)} :
    all cs = .error .incomparable ↔ .error .incomparable ∈ cs := by
  induction cs with
  | nil => simp [all]
  | cons c rest ih =>
    rw [all, List.mem_cons, ← ih, eq_comm (a := Except.error Refusal.incomparable),
      ← both_eq_incomparable]
    cases both c (all rest) <;> simp [Except.map]

/-- What is wrong with two outcomes is wrong with one of them. -/
theorem mem_flaws_of_both {β : Type} {x : Checked α} {y : Checked β} {flaw : Flaw}
    (h : flaw ∈ (both x y).flaws) : flaw ∈ x.flaws ∨ flaw ∈ y.flaws := by
  rcases x with ⟨_ | _⟩ | _ <;> rcases y with ⟨_ | _⟩ | _ <;>
    simp_all [both, flaws, Refusal.and]

@[simp] theorem flaws_map {β : Type} (f : α → β) (c : Checked α) : flaws (c.map f) = c.flaws := by
  rcases c with ⟨_ | _⟩ | _ <;> rfl

theorem exists_mem_of_flaws_all {cs : List (Checked α)} {flaw : Flaw}
    (h : flaw ∈ (all cs).flaws) : ∃ c ∈ cs, flaw ∈ c.flaws := by
  induction cs with
  | nil => cases h
  | cons c rest ih =>
    rw [all, flaws_map] at h
    rcases mem_flaws_of_both h with hhead | hrest
    · exact ⟨c, List.mem_cons_self, hhead⟩
    · obtain ⟨c', hc', hflaw⟩ := ih hrest
      exact ⟨c', List.mem_cons_of_mem _ hc', hflaw⟩

end Checked

/-! ## Elements alone and in a sequence -/

namespace Schema

/-- The flaws for which an input is refused. -/
def flaws (s : Schema) (now : Int) (input : Value) : List Flaw :=
  (s.check now (s.plain input)).flaws

/-- The issues of a sequence: those of each element in turn, at its position. -/
def issuesOfEach (s : Schema) (now : Int) (inputs : List Value) : List Issue :=
  (inputs.mapIdx fun i x => (s.flaws now x).map (Flaw.toIssueAt i)).flatten

variable {s : Schema} {now : Int} {inputs : List Value}

/-- An operation under its own name, if none is given. -/
def named (operation : Value) (otherwise : String) : Value :=
  if operation.truthy then operation else .text otherwise

/-- An operation fails because the check cannot be made, or for the flaws that it finds. -/
theorem concluded_eq_error {α : Type} {operation : Value} {otherwise : String} {target : Value}
    {outcome : Checked α} {fault : Fault}
    (h : concluded operation otherwise target outcome = .error fault) :
    (fault = .misuse .wrongKind ∧ outcome = .error .incomparable) ∨
      (fault = .invalid (named operation otherwise) (outcome.flaws.map Flaw.toNamedIssue) target ∧
        outcome ≠ .error .incomparable) := by
  cases outcome with
  | ok => cases h
  | error r =>
    cases r with
    | incomparable =>
      cases h
      exact .inl ⟨rfl, rfl⟩
    | mismatch found =>
      cases h
      exact .inr ⟨rfl, nofun⟩

theorem concluded_eq_misuse {α : Type} {operation : Value} {otherwise : String} {target : Value}
    {outcome : Checked α} : concluded operation otherwise target outcome =
      .error (.misuse .wrongKind) ↔ outcome = .error .incomparable := by
  constructor
  · intro h
    rcases concluded_eq_error h with ⟨-, h⟩ | ⟨h, -⟩
    · exact h
    · cases h
  · rintro rfl
    rfl

/-- A sequence cannot be checked exactly if one of its elements cannot. -/
theorem checkAll_eq_incomparable : s.checkAll now inputs = .error .incomparable ↔
    ∃ x ∈ inputs, s.check now (s.plain x) = .error .incomparable := by
  simp only [checkAll, Checked.all_eq_incomparable, List.mem_mapIdx, Checked.under_eq_incomparable,
    List.exists_mem_iff_getElem]

/-- The flaws of a sequence, named as issues, are those of its elements at their positions. -/
theorem issues_checkAll (h : s.checkAll now inputs ≠ .error .incomparable) :
    (s.checkAll now inputs).flaws.map Flaw.toNamedIssue = s.issuesOfEach now inputs := by
  have hflaws : (s.checkAll now inputs).flaws = (inputs.mapIdx fun i x =>
      Checked.under (toString i) (s.check now (s.plain x))).flatMap Checked.flaws :=
    Checked.flaws_all h
  simp only [hflaws, issuesOfEach, List.flatMap, List.map_flatten, List.mapIdx_eq_zipIdx_map,
    List.map_map]
  refine congrArg List.flatten (List.map_congr_left fun place _ => ?_)
  rw [Function.comp, Function.comp, Checked.flaws_under, List.map_map, flaws]
  exact List.map_congr_left fun flaw _ => flaw.toNamedIssue_under place.2

/-- **A sequence is checked as its elements are.** It is built exactly if each element is, and gives
what they give, in their order. It cannot be checked exactly if one of them cannot. Otherwise it
fails for what the elements alone fail for, one after the other. -/
theorem parseBulk_list (s : Schema) (now : Int) (inputs : List Value)
    (operation target operation' target' : Value) :
    let alone (x : Value) : Except Fault Value := s.parse now x operation target
    let together : Except Fault (List Value) :=
      s.parseBulk now (.list inputs) operation' target'
    (∀ built, together = .ok built ↔ List.Forall₂ (fun x w => alone x = .ok w) inputs built) ∧
    (together = .error (.misuse .wrongKind) ↔
      ∃ x ∈ inputs, alone x = .error (.misuse .wrongKind)) ∧
    (∀ fault, together = .error fault → fault ≠ .misuse .wrongKind →
      fault = .invalid (named operation' ("parse_bulk:" ++ s.name)) (s.issuesOfEach now inputs)
        target') ∧
    (∀ x w, alone x = .ok w → s.flaws now x = []) ∧
    ∀ x fault, alone x = .error fault → fault ≠ .misuse .wrongKind →
      fault = .invalid (named operation ("parse:" ++ s.name))
        ((s.flaws now x).map Flaw.toNamedIssue) target := by
  intro alone together
  have htogether : together =
      concluded operation' ("parse_bulk:" ++ s.name) target' (s.checkAll now inputs) := rfl
  refine ⟨fun built => ?_, ?_, fun fault h hfault => ?_, fun x w h => ?_,
    fun x fault h hfault => ?_⟩
  · rw [htogether, concluded, Except.mapError_eq_ok, checkAll, Checked.all_eq_ok,
      Checked.mapIdx_under_eq, ← List.forall₂_eq_eq_eq, List.forall₂_map_left_iff,
      List.forall₂_map_right_iff]
    simp only [alone, parse_eq_ok]
  · rw [htogether, concluded_eq_misuse, checkAll_eq_incomparable]
    simp only [alone, parse, concluded_eq_misuse]
  · rw [htogether] at h
    rcases concluded_eq_error h with ⟨h, -⟩ | ⟨rfl, hmade⟩
    · exact absurd h hfault
    · rw [issues_checkAll hmade]
  · rw [flaws, parse_eq_ok.1 h]
    rfl
  · exact ((concluded_eq_error h).resolve_left fun h => hfault h.1).1

/-! ## A limit that does not apply -/

/-- Samples with a mark of any kind that is at least 1. -/
def marked : Schema where
  name := "Sample"
  declaration := 0
  fields := [({ name := "mark", limits := { atLeast := some (.int 1) } }, .any)]
  extra := .ignored

/-- A sequence is not refused for the element without a mark if the mark of another cannot be held
against the limit. -/
theorem parseBulk_incomparable :
    marked.parse 0 (.dict []) .null .null =
      .error (.invalid (.text "parse:Sample") [{ path := "mark", reason := Reason.missing.text }] .null) ∧
    marked.issuesOfEach 0 [.dict [(.text "mark", .text "x")], .dict []] =
      [{ path := "1.mark", reason := Reason.missing.text }] ∧
    marked.parseBulk 0 (.list [.dict [(.text "mark", .text "x")], .dict []]) .null .null =
      .error (.misuse .wrongKind) :=
  ⟨rfl, rfl, rfl⟩

end Schema

end DocMapper
