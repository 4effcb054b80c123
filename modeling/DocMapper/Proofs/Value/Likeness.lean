import Mathlib.Data.List.Forall2
import DocMapper.Proofs.Calendar.IsoText
import DocMapper.Proofs.Data.Distinct
import DocMapper.Value
/-!
# The same tree, whatever the order of entries

Two values are alike if they are the same tree up to the order of the entries of their dictionaries, of
literal ones and of the parameters of a query (`Value.Like`). The bindings of a `let` keep their order,
and a timestamp is what its canonical text tells.

A query is compared as an operation with arguments under their names (`Query.arguments`).
-/

namespace DocMapper

namespace Dict

variable {α β : Type}

/-- The dictionaries have the same keys. -/
def SameKeys (d : Dict α) (e : Dict β) : Prop := ∀ key, d.has key = e.has key

theorem SameKeys.exists_get? {d : Dict α} {e : Dict β} (h : SameKeys d e) {key : Key} {a : α}
    (ha : d.get? key = some a) : ∃ b, e.get? key = some b := by
  have hkey := h key
  rw [has, has, ha] at hkey
  exact Option.isSome_iff_exists.1 hkey.symm

theorem SameKeys.of_keys_eq {d : Dict α} {e : Dict β} (h : d.keys = e.keys) : SameKeys d e := by
  intro key
  rw [has_eq_any, has_eq_any, h]

@[simp] theorem has_map (d : Dict α) (f : α → β) (key : Key) :
    has (d.map fun e => (e.1, f e.2)) key = d.has key := by
  rw [has, has, get?_map, Option.isSome_map]

/-- Dictionaries have the same keys in the same order just if each entry has the key of the one beside
it. -/
theorem keys_eq_iff {d : Dict α} {e : Dict β} : d.keys = e.keys ↔
    d.length = e.length ∧ ∀ a b, (a, b) ∈ d.zip e → a.1 = b.1 := by
  rw [keys, keys, ← List.forall₂_eq_eq_eq, List.forall₂_map_left_iff, List.forall₂_map_right_iff,
    List.forall₂_iff_zip]

/-- Where keys are distinct the order of entries does not count. -/
theorem Distinct.get?_perm {d e : Dict α} (hd : Distinct d) (h : d.Perm e) (key : Key) :
    d.get? key = e.get? key := by
  have he : Distinct e := h.pairwise hd fun hxy => by rwa [Key.same_comm]
  cases hfound : e.get? key with
  | some v =>
    obtain ⟨k, hmem, hk⟩ := exists_mem_of_get? hfound
    rw [← get?_congr d hk]
    exact hd.get?_of_mem (h.mem_iff.2 hmem)
  | none =>
    cases hfound' : d.get? key with
    | none => rfl
    | some v =>
      obtain ⟨k, hmem, hk⟩ := exists_mem_of_get? hfound'
      have hthere := he.get?_of_mem (h.mem_iff.1 hmem)
      rw [get?_congr e hk, hfound] at hthere
      cases hthere

/-- What holds of the entries under each key holds with one more entry of which it holds. -/
theorem forall_get?_cons {R : α → β → Prop} {d : Dict α} {e : Dict β} {a : α} {b : β} (hab : R a b)
    (h : ∀ key a b, d.get? key = some a → e.get? key = some b → R a b) (k : Key) :
    ∀ key a' b', get? ((k, a) :: d) key = some a' → get? ((k, b) :: e) key = some b' → R a' b' := by
  intro key a' b' ha hb
  by_cases hk : k.same key = true
  · simp only [get?, hk, if_true, Option.some.injEq] at ha hb
    rwa [← ha, ← hb]
  · simp only [get?, hk, Bool.false_eq_true, if_false] at ha hb
    exact h key a' b' ha hb

/-- What is the same of entries in one order is the same under each key. -/
theorem get?_of_forall₂ {R : α → β → Prop} {d : Dict α} {e : Dict β}
    (h : List.Forall₂ (fun a b => a.1 = b.1 ∧ R a.2 b.2) d e) :
    SameKeys d e ∧ ∀ key x y, d.get? key = some x → e.get? key = some y → R x y := by
  induction h with
  | nil => exact ⟨.of_keys_eq rfl, by rintro _ _ _ ⟨⟩⟩
  | @cons a b d e hab _ ih =>
    obtain ⟨k, x⟩ := a
    obtain ⟨l, y⟩ := b
    obtain ⟨rfl, hxy⟩ := hab
    refine ⟨fun key => ?_, forall_get?_cons hxy ih.2 k⟩
    have hkey := ih.1 key
    by_cases hk : k.same key = true
    · simp [has, get?, hk]
    · rw [has, has] at hkey ⊢
      simpa [get?, hk] using hkey

/-- What is the same of all entries is the same under each key. -/
theorem forall_get?_congr {R S : α → β → Prop} {d : Dict α} {e : Dict β}
    (h : ∀ x ∈ d, ∀ y ∈ e, R x.2 y.2 ↔ S x.2 y.2) :
    (∀ key a b, d.get? key = some a → e.get? key = some b → R a b) ↔
      ∀ key a b, d.get? key = some a → e.get? key = some b → S a b := by
  refine forall₃_congr fun key a b => forall₂_congr fun ha hb => ?_
  obtain ⟨k, hmem, -⟩ := exists_mem_of_get? ha
  obtain ⟨l, hmem', -⟩ := exists_mem_of_get? hb
  exact h _ hmem _ hmem'

end Dict

namespace Query

/-- An argument that may be left out. -/
def argument (name : String) : Option Value → Dict Value
  | none => []
  | some v => [(.text name, v)]

/-- The arguments of a query by their names; several values count as a list, and parameters as a
dictionary. -/
def arguments : Query → Dict Value
  | .letIn bindings body => [("let", .dict bindings), ("in", body)]
  | .var name => [("var", name)]
  | .ifElse condition consequent alternative =>
    [("if", condition), ("then", consequent), ("else", alternative)]
  | .sequence items => [("do", .list items)]
  | .abort message => [("abort", message)]
  | .lambda parameter body => [("lambda", parameter), ("expr", body)]
  | .map function source => [("map", function), ("collection", source)]
  | .select path source fallback =>
    ("select", .list path) :: ("from", source) :: argument "default" fallback
  | .database name => [("database", name)]
  | .collection name scope => ("collection", name) :: argument "scope" scope
  | .index name scope => ("index", name) :: argument "scope" scope
  | .ref source id => [("ref", source), ("id", id)]
  | .documents source => [("documents", source)]
  | .present target => [("exists", target)]
  | .get target => [("get", target)]
  | .matching source terms => ("match", source) :: argument "terms" terms
  | .paginate source size after before => ("paginate", source) ::
      (argument "size" size ++ argument "after" after ++ argument "before" before)
  | .count target => [("count", target)]
  | .create source params => [("create", source), ("params", .dict params)]
  | .update target params => [("update", target), ("params", .dict params)]
  | .replace target params => [("replace", target), ("params", .dict params)]
  | .delete target => [("delete", target)]
  | .createCollection params => [("create_collection", .dict params)]
  | .createIndex params => [("create_index", .dict params)]

end Query

namespace Value

/-- The same tree, whatever the order of entries in dictionaries. -/
inductive Like : Value → Value → Prop
  | refl (v : Value) : Like v v
  /-- timestamps that their canonical texts do not tell apart -/
  | timestamp {s t : Timestamp} (h : s.iso = t.iso) : Like (.timestamp s) (.timestamp t)
  | list {as bs : List Value} (hlength : as.length = bs.length)
    (h : ∀ a b, (a, b) ∈ as.zip bs → Like a b) : Like (.list as) (.list bs)
  | dict {as bs : Dict Value} (hkeys : Dict.SameKeys as bs)
    (h : ∀ key a b, as.get? key = some a → bs.get? key = some b → Like a b) :
    Like (.dict as) (.dict bs)
  /-- bindings in the same order -/
  | letIn {as bs : Dict Value} {x y : Value} (hkeys : as.keys = bs.keys)
    (h : ∀ a b, (a, b) ∈ as.zip bs → Like a.2 b.2) (hbody : Like x y) :
    Like (.query (.letIn as x)) (.query (.letIn bs y))
  /-- the same operation on arguments that are alike -/
  | query {q r : Query} (hlet : q.operation ≠ "let") (hoperation : q.operation = r.operation)
    (hkeys : Dict.SameKeys q.arguments r.arguments)
    (h : ∀ name a b, q.arguments.get? name = some a → r.arguments.get? name = some b → Like a b) :
    Like (.query q) (.query r)

end Value

end DocMapper
