import DocMapper.Proofs.Data.Distinct
import DocMapper.Schema.Limits
/-!
# Values that fit a type

`FieldType.Fits limits type v` says that `v` is in the form in which a check leaves the values of the
type, within limits. `FieldType.IsStorable` are the types of data that is stored and read back: they
have no field of free form, no members by other names and no undeclared members, and every default
of theirs fits.

`FieldType.Pointwise` relates the fields of an instance to their declarations, one by one, and
`FieldType.IsStorable.induction` is the induction over the types of stored data.
-/

namespace DocMapper

namespace FieldType

mutual

/-- The value is one of the type, within limits, as a check leaves it. -/
def Fits (limits : Limits) : FieldType → Value → Prop
  | .text, v => ∃ s, v = .text s ∧ limits.checkText s = .ok v ∧ limits.holdBounds v = .ok v
  | .int, v => ∃ n, v = .int n ∧ (limits.ofType .int).checkBounds v = .ok v ∧
      limits.holdLengths v = .ok v
  | .float, v => ∃ x, v = .float x ∧ (limits.ofType .float).checkBounds v = .ok v ∧
      limits.holdLengths v = .ok v
  | .bool, v => ∃ b, v = .bool b ∧ limits.hold v = .ok v
  | .timestamp, v => ∃ t, v = .timestamp t ∧ (limits.ofType .timestamp).checkBounds v = .ok v ∧
      limits.holdLengths v = .ok v
  | .date, v => ∃ d, v = .date d ∧ (limits.ofType .date).checkBounds v = .ok v ∧
      limits.holdLengths v = .ok v
  | .ref, v => ∃ r, v = .ref r ∧ limits.hold v = .ok v
  | .optional inner, v => v = .null ∨ Fits limits inner v
  | .list item, v => ∃ items, v = .list items ∧ (∀ x ∈ items, Fits {} item x) ∧
      limits.checkList v (items.map .ok) = .ok v ∧ limits.holdBounds v = .ok v
  | .entries value, v => ∃ entries : Dict Value, v = .dict entries ∧ entries.Distinct ∧
      (∀ e ∈ entries, ∃ s, e.1 = .text s) ∧ (∀ e ∈ entries, Fits {} value e.2) ∧
      limits.checkDict entries = .ok v ∧ limits.holdBounds v = .ok v
  | .record name declaration _ fields, v => ∃ held,
      v = .record (signatureOf name declaration fields) held ∧ FitsFields fields held ∧
      limits.hold v = .ok v
  | _, _ => False

/-- Each field has a value that fits, in the order of the declaration. -/
def FitsFields : List (Field × FieldType) → List (String × Value) → Prop
  | [], held => held = []
  | (f, type) :: rest, held => ∃ v others, held = (f.name, v) :: others ∧ Fits f.limits type v ∧
      FitsFields rest others

end

/-- A default of a type gives values of the type. -/
def FitsDefault (limits : Limits) (type : FieldType) : Default → Prop
  | .value v => Fits limits type v
  | .now => ∀ now : Int, Fits limits type (.int now)
  | _ => True

mutual

/-- The values of the type are data that is stored and read back. -/
def IsStorable : FieldType → Prop
  | .optional inner => IsStorable inner
  | .list item => IsStorable item
  | .entries value => IsStorable value
  | .record _ _ extra fields => extra ≠ .kept ∧
      fields.Pairwise (fun a b => a.1.name ≠ b.1.name) ∧ AreStorable fields
  | .any => False
  | .dict => False
  | .set _ => False
  | .tuple _ => False
  | .union _ => False
  | _ => True

/-- Each field is of such a type, goes by its own name and has a default that fits, if any. -/
def AreStorable : List (Field × FieldType) → Prop
  | [] => True
  | (f, type) :: rest => f.givenAs = none ∧ FitsDefault f.limits type f.default ∧ IsStorable type ∧
      AreStorable rest

end

/-! ## Induction over the types of stored data -/

theorem areStorable_iff {fields : List (Field × FieldType)} : AreStorable fields ↔
    ∀ d ∈ fields, d.1.givenAs = none ∧ FitsDefault d.1.limits d.2 d.1.default ∧ d.2.IsStorable := by
  induction fields with
  | nil => simp [AreStorable]
  | cons d rest ih => simp only [AreStorable, List.forall_mem_cons, ih, and_assoc]

section Induct

variable {motive : (type : FieldType) → type.IsStorable → Prop}
  (text : motive .text trivial) (int : motive .int trivial) (float : motive .float trivial)
  (bool : motive .bool trivial) (timestamp : motive .timestamp trivial)
  (date : motive .date trivial) (ref : motive .ref trivial)
  (optional : ∀ (inner : FieldType) (h : inner.IsStorable), motive inner h →
    motive (.optional inner) h)
  (list : ∀ (item : FieldType) (h : item.IsStorable), motive item h → motive (.list item) h)
  (entries : ∀ (value : FieldType) (h : value.IsStorable), motive value h →
    motive (.entries value) h)
  (record : ∀ (name : String) (declaration : Nat) (extra : Extra)
    (fields : List (Field × FieldType)) (h : (record name declaration extra fields).IsStorable),
    (∀ d (hd : d ∈ fields), motive d.2 (areStorable_iff.1 h.2.2 d hd).2.2) →
    motive (.record name declaration extra fields) h)
  (byName : ∀ (name : String) (declaration : Nat), motive (.byName name declaration) trivial)

include text int float bool timestamp date ref optional list entries record byName

set_option linter.unusedSectionVars false in
mutual

/-- **Induction over the types of stored data**: what holds of the types of single values and passes
from the parts of a type to the type holds of all. -/
theorem IsStorable.induction : (type : FieldType) → (h : type.IsStorable) → motive type h
  | .text, _ => text
  | .int, _ => int
  | .float, _ => float
  | .bool, _ => bool
  | .timestamp, _ => timestamp
  | .date, _ => date
  | .ref, _ => ref
  | .optional inner, h => optional inner h (IsStorable.induction inner h)
  | .list item, h => list item h (IsStorable.induction item h)
  | .entries value, h => entries value h (IsStorable.induction value h)
  | .record name declaration extra fields, h =>
    record name declaration extra fields h (AreStorable.induction fields h.2.2)
  | .byName name declaration, _ => byName name declaration
  | .any, h => h.elim
  | .dict, h => h.elim
  | .set _, h => h.elim
  | .tuple _, h => h.elim
  | .union _, h => h.elim

theorem AreStorable.induction : (fields : List (Field × FieldType)) → (h : AreStorable fields) →
    ∀ d (hd : d ∈ fields), motive d.2 (areStorable_iff.1 h d hd).2.2
  | [], _, _, hd => by cases hd
  | (f, type) :: rest, h, d, hd => by
    rcases List.mem_cons.1 hd with rfl | hmem
    · exact IsStorable.induction type h.2.2.1
    · exact AreStorable.induction rest h.2.2.2 d hmem

end

end Induct

/-! ## Fields and their declarations -/

/-- Each field stands in a relation to its declaration, in the order of the declarations. -/
def Pointwise (P : Field → FieldType → Value → Prop) :
    List (Field × FieldType) → List (String × Value) → Prop
  | [], held => held = []
  | (f, type) :: rest, held => ∃ v others, held = (f.name, v) :: others ∧ P f type v ∧
      Pointwise P rest others

attribute [local simp] FitsFields Pointwise

theorem fitsFields_iff {fields : List (Field × FieldType)} {held : List (String × Value)} :
    FitsFields fields held ↔ Pointwise (fun f type v => Fits f.limits type v) fields held := by
  induction fields generalizing held with
  | nil => rfl
  | cons d rest ih => simp only [FitsFields, Pointwise, ih]

/-- In fields of distinct names each is found under its name. -/
theorem lookup_of_mem {α : Type} {held : List (String × α)}
    (hn : held.Pairwise fun a b => a.1 ≠ b.1) {name : String} {v : α} (h : (name, v) ∈ held) :
    held.lookup name = some v := by
  induction held with
  | nil => cases h
  | cons e rest ih =>
    obtain ⟨name', v'⟩ := e
    obtain ⟨hhead, hrest⟩ := List.pairwise_cons.1 hn
    rcases List.mem_cons.1 h with heq | hmem
    · cases heq
      simp
    · have hne : name ≠ name' := Ne.symm (hhead _ hmem)
      simpa [List.lookup_cons, beq_false_of_ne hne] using ih hrest hmem

namespace Pointwise

variable {P Q : Field → FieldType → Value → Prop} {fields : List (Field × FieldType)}
  {held : List (String × Value)}

theorem imp (h : Pointwise P fields held) (hPQ : ∀ d ∈ fields, ∀ v, P d.1 d.2 v → Q d.1 d.2 v) :
    Pointwise Q fields held := by
  induction fields generalizing held with
  | nil => exact h
  | cons d rest ih =>
    obtain ⟨v, others, rfl, hv, hrest⟩ := h
    obtain ⟨hhead, htail⟩ := List.forall_mem_cons.1 hPQ
    exact ⟨v, others, rfl, hhead v hv, ih hrest htail⟩

/-- Each field is one of the instance. -/
theorem and_mem (h : Pointwise P fields held) :
    Pointwise (fun f type v => P f type v ∧ (f.name, v) ∈ held) fields held := by
  have key : ∀ {fields others}, Pointwise P fields others → (∀ e ∈ others, e ∈ held) →
      Pointwise (fun f type v => P f type v ∧ (f.name, v) ∈ held) fields others := by
    intro fields
    induction fields with
    | nil => intro others h _; exact h
    | cons d rest ih =>
      rintro others ⟨v, others, rfl, hv, hrest⟩ hmem
      obtain ⟨hhead, htail⟩ := List.forall_mem_cons.1 hmem
      exact ⟨v, others, rfl, ⟨hv, hhead⟩, ih hrest htail⟩
  exact key h fun e he => he

/-- There is one instance where the declarations leave no choice. -/
theorem unique {others : List (String × Value)} (h : Pointwise P fields held)
    (h' : Pointwise Q fields others)
    (hPQ : ∀ d ∈ fields, ∀ v w, P d.1 d.2 v → Q d.1 d.2 w → v = w) : held = others := by
  induction fields generalizing held others with
  | nil => rw [Pointwise] at h h'; rw [h, h']
  | cons d rest ih =>
    obtain ⟨v, held, rfl, hv, hrest⟩ := h
    obtain ⟨w, others, rfl, hw, hrest'⟩ := h'
    obtain ⟨hhead, htail⟩ := List.forall_mem_cons.1 hPQ
    rw [hhead v w hv hw, ih hrest hrest' htail]

/-- The fields of an instance whose values were changed, each by its name. -/
theorem map {g : String → Value → Value}
    (h : Pointwise (fun f type v => P f type (g f.name v)) fields held) :
    Pointwise P fields (held.map fun e => (e.1, g e.1 e.2)) := by
  induction fields generalizing held with
  | nil => rw [Pointwise] at h ⊢; rw [h]; rfl
  | cons d rest ih =>
    obtain ⟨v, others, rfl, hv, hrest⟩ := h
    exact ⟨g d.1.name v, others.map fun e => (e.1, g e.1 e.2), rfl, hv, ih hrest⟩

theorem names (h : Pointwise P fields held) : held.map Prod.fst = fields.map fun d => d.1.name := by
  induction fields generalizing held with
  | nil => rw [Pointwise] at h; rw [h]; rfl
  | cons d rest ih =>
    obtain ⟨v, others, rfl, -, hrest⟩ := h
    rw [List.map_cons, List.map_cons, ih hrest]

/-- Every field is declared. -/
theorem exists_declaration (h : Pointwise P fields held) {e : String × Value} (he : e ∈ held) :
    ∃ d ∈ fields, d.1.name = e.1 ∧ P d.1 d.2 e.2 := by
  induction fields generalizing held with
  | nil => rw [Pointwise] at h; rw [h] at he; cases he
  | cons d rest ih =>
    obtain ⟨v, others, rfl, hv, hrest⟩ := h
    rcases List.mem_cons.1 he with rfl | hmem
    · exact ⟨d, List.mem_cons_self, rfl, hv⟩
    · obtain ⟨d', hd', hname, hP⟩ := ih hrest hmem
      exact ⟨d', List.mem_cons_of_mem _ hd', hname, hP⟩

/-- Everything declared is there. -/
theorem exists_field (h : Pointwise P fields held) {d : Field × FieldType} (hd : d ∈ fields) :
    ∃ v, (d.1.name, v) ∈ held ∧ P d.1 d.2 v := by
  induction fields generalizing held with
  | nil => cases hd
  | cons d' rest ih =>
    obtain ⟨v, others, rfl, hv, hrest⟩ := h
    rcases List.mem_cons.1 hd with rfl | hmem
    · exact ⟨v, List.mem_cons_self, hv⟩
    · obtain ⟨w, hw, hP⟩ := ih hrest hmem
      exact ⟨w, List.mem_cons_of_mem _ hw, hP⟩

/-- The field of a name is the first that is declared under it. -/
theorem exists_lookup (h : Pointwise P fields held) {key : String} {d : Field × FieldType}
    (hfind : fields.find? (fun e => e.1.name = key) = some d) :
    ∃ v, held.lookup key = some v ∧ P d.1 d.2 v := by
  induction fields generalizing held with
  | nil => cases hfind
  | cons d' rest ih =>
    obtain ⟨v, others, rfl, hv, hrest⟩ := h
    rw [List.lookup_cons]
    by_cases hname : d'.1.name = key
    · rw [List.find?_cons_of_pos (by simpa using hname)] at hfind
      cases hfind
      exact ⟨v, by simp [hname], hv⟩
    · rw [List.find?_cons_of_neg (by simpa using hname)] at hfind
      obtain ⟨w, hw, hP⟩ := ih hrest hfind
      exact ⟨w, by simpa [beq_false_of_ne (Ne.symm hname)] using hw, hP⟩

/-- Fields for all declarations. -/
theorem of_forall (h : ∀ d ∈ fields, ∃ v, P d.1 d.2 v) : ∃ held, Pointwise P fields held := by
  induction fields with
  | nil => exact ⟨[], rfl⟩
  | cons d rest ih =>
    obtain ⟨⟨v, hv⟩, hrest⟩ := List.forall_mem_cons.1 h
    obtain ⟨others, hothers⟩ := ih hrest
    exact ⟨_, v, others, rfl, hv, hothers⟩

/-- The fields of an instance are as distinct as their declarations. -/
theorem distinct (h : Pointwise P fields held)
    (hn : fields.Pairwise fun a b => a.1.name ≠ b.1.name) :
    held.Pairwise fun a b => a.1 ≠ b.1 := by
  have hnames : (held.map Prod.fst).Pairwise (· ≠ ·) := by
    rw [h.names]
    exact List.pairwise_map.2 hn
  exact List.pairwise_map.1 hnames

/-- What holds of each field of an instance. -/
theorem of_mem (h : Pointwise P fields held) (hn : fields.Pairwise fun a b => a.1.name ≠ b.1.name)
    {d : Field × FieldType} (hd : d ∈ fields) {v : Value} (hv : (d.1.name, v) ∈ held) :
    P d.1 d.2 v := by
  obtain ⟨w, hw, hP⟩ := h.exists_field hd
  cases (lookup_of_mem (h.distinct hn) hw).symm.trans (lookup_of_mem (h.distinct hn) hv)
  exact hP

end Pointwise

end FieldType

end DocMapper
