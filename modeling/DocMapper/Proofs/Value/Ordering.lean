import DocMapper.Proofs.Calendar.Ordinal
import DocMapper.Proofs.Value.Sameness
import DocMapper.Value.Order
/-!
# The order of values

Values of one kind stand to each other in an order: turned around it is the order of the values
turned around (`Value.compare?_swap`), values that are the same stand to every other alike
(`Value.compare?_congr`), and it leads on from one value to the next as long as the ends can be
compared (`Value.less_trans`).

So the order of an index, in which null comes last and a reference goes by its id (`Value.before`),
is a strict weak order on values that can be put in order.
-/

namespace DocMapper

namespace Comparison

/-- How the second of two values stands to the first. -/
def swap : Comparison → Comparison
  | less => greater
  | greater => less
  | c => c

theorem ofOrdering_swap (o : Ordering) : ofOrdering o.swap = (ofOrdering o).swap := by
  cases o <;> rfl

@[simp] theorem ofOrdering_eq_less {o : Ordering} : ofOrdering o = less ↔ o = .lt := by
  cases o <;> simp [ofOrdering]

@[simp] theorem ofOrdering_eq_equal {o : Ordering} : ofOrdering o = equal ↔ o = .eq := by
  cases o <;> simp [ofOrdering]

end Comparison

namespace Magnitude

variable {x y z : Magnitude}

/-- The order of numbers leads on. -/
theorem lt_trans (hxy : x.compare? y = some .lt) (hyz : y.compare? z = some .lt) :
    x.compare? z = some .lt := by
  have hxy' : AtMost x y := Or.inl hxy
  have hyz' : AtMost y z := Or.inl hyz
  rcases hxy'.trans hyz' with hlt | heq
  · exact hlt
  · have hzx : AtMost z x := Or.inr (by rw [compare?_swap x z, heq]; rfl)
    have hzy : AtMost z y := hzx.trans hxy'
    rw [AtMost, compare?_swap y z, hyz] at hzy
    simp at hzy

/-- Numbers that are the same stand to every number alike. -/
theorem compare?_congr (h : x.same y = true) (z : Magnitude) : x.compare? z = y.compare? z := by
  obtain ⟨hxy, hyx⟩ := same_iff_atMost.1 h
  have hle : AtMost x z ↔ AtMost y z := ⟨hyx.trans, hxy.trans⟩
  have hge : AtMost z x ↔ AtMost z y := ⟨fun hz => hz.trans hxy, fun hz => hz.trans hyx⟩
  simp only [AtMost, compare?_swap x z, compare?_swap y z] at hle hge
  generalize x.compare? z = o, y.compare? z = o' at hle hge ⊢
  rcases o with _ | _ | _ | _ <;> rcases o' with _ | _ | _ | _ <;> simp at hle hge ⊢

end Magnitude

namespace Timestamp

theorem compare?_swap (s t : Timestamp) : t.compare? s = (s.compare? t).map Ordering.swap := by
  unfold compare?
  cases s.instant? <;> cases t.instant? <;>
    simp only [Option.map_some, Option.map_none, ← Std.OrientedCmp.eq_swap]

theorem lt_trans {s t u : Timestamp} (hst : s.compare? t = some .lt)
    (htu : t.compare? u = some .lt) : s.compare? u = some .lt := by
  unfold compare? at *
  cases hs : s.instant? <;> cases ht : t.instant? <;> cases hu : u.instant? <;>
    simp only [hs, ht, hu, Option.some.injEq, reduceCtorEq] at hst htu ⊢
  all_goals exact Std.TransCmp.lt_trans hst htu

theorem compare?_congr {s t : Timestamp} (h : s.same t = true) (u : Timestamp) :
    s.compare? u = t.compare? u := by
  unfold same at h
  unfold compare?
  cases hs : s.instant? <;> cases ht : t.instant? <;> simp only [hs, ht, beq_iff_eq,
    Bool.false_eq_true] at h
  all_goals cases u.instant? <;> simp only [h]

theorem same_of_compare?_eq {s t : Timestamp} (h : s.compare? t = some .eq) : s.same t = true := by
  unfold compare? at h
  unfold same
  cases hs : s.instant? <;> cases ht : t.instant? <;> simp only [hs, ht, Option.some.injEq,
    reduceCtorEq] at h
  all_goals rw [beq_iff_eq]; exact Std.LawfulEqCmp.eq_of_compare h

end Timestamp

namespace Value

variable {a b c : Value}

/-! ## Values that hold no others -/

/-- A number compares with another value as the number that it is, if that is one, too. -/
theorem compare?_of_isNumber (h : a.magnitude?.isSome) (b : Value) :
    a.compare? b = a.magnitude?.bind fun x => b.magnitude?.map fun y =>
      (x.compare? y).elim .unordered .ofOrdering := by
  cases a <;> simp [magnitude?] at h <;> cases b <;> rfl

/-- One number is less than another as the order of numbers says. -/
theorem less_iff {x y : Magnitude} : ((some x).bind fun x => (some y).map fun y =>
    (x.compare? y).elim Comparison.unordered .ofOrdering) = some .less ↔
      x.compare? y = some .lt := by
  cases h : x.compare? y <;> simp [h]

/-- What a number compares with is a number. -/
theorem isNumber_of_compare? {k : Comparison} (ha : a.magnitude?.isSome)
    (h : a.compare? b = some k) : b.magnitude?.isSome := by
  rw [compare?_of_isNumber ha] at h
  obtain ⟨x, -, h⟩ := Option.bind_eq_some_iff.1 h
  obtain ⟨y, hy, -⟩ := Option.map_eq_some_iff.1 h
  simp [hy]

/-- **Turned around, two values stand to each other the other way.** -/
theorem compare?_swap_leaf (ha : a.isLeaf = true) :
    b.compare? a = (a.compare? b).map Comparison.swap := by
  by_cases hn : a.magnitude?.isSome ∧ b.magnitude?.isSome
  · obtain ⟨hna, hnb⟩ := hn
    obtain ⟨x, hx⟩ := Option.isSome_iff_exists.1 hna
    obtain ⟨y, hy⟩ := Option.isSome_iff_exists.1 hnb
    rw [compare?_of_isNumber hna, compare?_of_isNumber hnb, hx, hy]
    simp only [Option.bind_some, Option.map_some, Magnitude.compare?_swap x y]
    cases x.compare? y with
    | none => rfl
    | some o => simp [Comparison.ofOrdering_swap]
  · cases a <;> simp [isLeaf] at ha <;> cases b <;> simp [magnitude?] at hn <;>
      simp only [compare?, magnitude?, Option.map_none, Option.map_some,
        ← Comparison.ofOrdering_swap, ← Std.OrientedCmp.eq_swap]
    case timestamp.timestamp s t =>
      rw [Timestamp.compare?_swap s t]
      cases s.compare? t <;> simp [Comparison.ofOrdering_swap]

/-- Values that are the same stand to every other alike. -/
theorem compare?_congr_leaf (ha : a.isLeaf = true) (h : a.same b = true) (c : Value) :
    a.compare? c = b.compare? c := by
  by_cases hn : a.magnitude?.isSome
  · rw [same_of_isNumber hn] at h
    have hnb := (isNumber_of_sameNumber h).2
    rcases sameNumber_iff.1 h with ⟨w, rfl, rfl⟩ | hmagnitude
    · rfl
    · obtain ⟨x, hx⟩ := Option.isSome_iff_exists.1 hn
      obtain ⟨y, hy⟩ := Option.isSome_iff_exists.1 hnb
      rw [sameMagnitude, hx, hy] at hmagnitude
      simp only [compare?_of_isNumber hn, compare?_of_isNumber hnb, hx, hy, Option.bind_some,
        Magnitude.compare?_congr hmagnitude]
  · cases a <;> simp [isLeaf] at ha <;> simp [magnitude?] at hn <;> cases b <;>
      simp [same, sameNumber, sameMagnitude, magnitude?] at h
    case timestamp.timestamp s t =>
      cases c <;> simp [compare?, magnitude?, Timestamp.compare?_congr h]
    all_goals first | rfl | rw [h]

/-- The order leads on. -/
theorem less_trans_leaf (ha : a.isLeaf = true) (hab : a.compare? b = some .less)
    (hbc : b.compare? c = some .less) : a.compare? c = some .less := by
  by_cases hn : a.magnitude?.isSome
  · have hnb := isNumber_of_compare? hn hab
    have hnc := isNumber_of_compare? hnb hbc
    obtain ⟨x, hx⟩ := Option.isSome_iff_exists.1 hn
    obtain ⟨y, hy⟩ := Option.isSome_iff_exists.1 hnb
    obtain ⟨z, hz⟩ := Option.isSome_iff_exists.1 hnc
    rw [compare?_of_isNumber hn, hx, hy, less_iff] at hab
    rw [compare?_of_isNumber hnb, hy, hz, less_iff] at hbc
    rw [compare?_of_isNumber hn, hx, hz, less_iff]
    exact Magnitude.lt_trans hab hbc
  · cases a <;> simp [isLeaf] at ha <;> simp [magnitude?] at hn <;> cases b <;>
      simp [compare?, magnitude?] at hab <;> cases c <;> simp [compare?, magnitude?] at hbc ⊢
    case timestamp.timestamp.timestamp s t u => exact Timestamp.lt_trans hab hbc
    all_goals exact Std.TransCmp.lt_trans hab hbc

/-- What neither comes before nor after a value of its kind is the same. -/
theorem same_of_equal_leaf (ha : a.isLeaf = true) (h : a.compare? b = some .equal) :
    a.same b = true := by
  by_cases hn : a.magnitude?.isSome
  · have hnb := isNumber_of_compare? hn h
    obtain ⟨x, hx⟩ := Option.isSome_iff_exists.1 hn
    obtain ⟨y, hy⟩ := Option.isSome_iff_exists.1 hnb
    rw [same_of_isNumber hn, sameNumber_iff, sameMagnitude, hx, hy]
    rw [compare?_of_isNumber hn, hx, hy] at h
    refine Or.inr (Magnitude.same_iff.2 ?_)
    cases hxy : x.compare? y <;> simp [hxy] at h
    rw [h]
  · cases a <;> simp [isLeaf] at ha <;> simp [magnitude?] at hn <;> cases b <;>
      simp [compare?, magnitude?] at h
    case timestamp.timestamp s t => exact Timestamp.same_of_compare?_eq h
    case date.date d e =>
      rw [same, decide_eq_true_iff]
      exact Date.eq_of_ordinal_eq h
    all_goals rw [same, beq_iff_eq, h]

/-! ## The order -/

/-- A dictionary or an instance compares with nothing. -/
theorem compare?_dict (entries : Dict Value) (b : Value) : (dict entries).compare? b = none := by
  cases b <;> rfl

theorem compare?_record (schema : Signature) (fields : List (String × Value)) (b : Value) :
    (record schema fields).compare? b = none := by
  cases b <;> rfl

mutual

/-- **Turned around, two values stand to each other the other way.** -/
theorem compare?_swap : {a b : Value} → a.IsData → b.IsData →
    b.compare? a = (a.compare? b).map Comparison.swap
  | .list items, b, ha, hb => by
    cases b with
    | list others => exact compareList?_swap (isData_list.1 ha) (isData_list.1 hb)
    | _ => simp [compare?, magnitude?]
  | .tuple items, b, ha, hb => by
    cases b with
    | tuple others => exact compareList?_swap (isData_tuple.1 ha) (isData_tuple.1 hb)
    | _ => simp [compare?, magnitude?]
  | .dict entries, b, _, _ => by cases b <;> simp [compare?, magnitude?]
  | .null, _, _, _ | .bool _, _, _, _ | .int _, _, _, _ | .float _, _, _, _ | .text _, _, _, _
  | .bytes _, _, _, _ | .timestamp _, _, _, _ | .date _, _, _, _ | .ref _, _, _, _ =>
    compare?_swap_leaf rfl
  | .record .., _, h, _ | .accessor _, _, h, _ | .thunk _, _, h, _ | .query _, _, h, _
  | .rows _, _, h, _ | .closure .., _, h, _ | .foreign _, _, h, _ =>
    absurd h.plain (by simp [isPlain])

theorem compareList?_swap : {items others : List Value} → (∀ v ∈ items, v.IsData) →
    (∀ v ∈ others, v.IsData) →
    compareList? others items = (compareList? items others).map Comparison.swap
  | [], [], _, _ => rfl
  | [], _ :: _, _, _ => rfl
  | _ :: _, [], _, _ => rfl
  | a :: items, b :: others, ha, hb => by
    obtain ⟨ha, hitems⟩ := List.forall_mem_cons.1 ha
    obtain ⟨hb, hothers⟩ := List.forall_mem_cons.1 hb
    rw [compareList?, compareList?, same_comm hb ha]
    split
    · exact compareList?_swap hitems hothers
    · exact compare?_swap ha hb

end

mutual

/-- **Values that are the same stand to every other alike.** -/
theorem compare?_congr : {a b : Value} → a.IsData → b.IsData → a.same b = true → {c : Value} →
    c.IsData → a.compare? c = b.compare? c
  | .list items, b, ha, hb, h, c, hc => by
    cases b with
    | list others =>
      cases c with
      | list more =>
        exact compareList?_congr (isData_list.1 ha) (isData_list.1 hb) h (isData_list.1 hc)
      | _ => simp [compare?, magnitude?]
    | _ => simp [same, sameNumber, sameMagnitude, magnitude?] at h
  | .tuple items, b, ha, hb, h, c, hc => by
    cases b with
    | tuple others =>
      cases c with
      | tuple more =>
        exact compareList?_congr (isData_tuple.1 ha) (isData_tuple.1 hb) h (isData_tuple.1 hc)
      | _ => simp [compare?, magnitude?]
    | _ => simp [same, sameNumber, sameMagnitude, magnitude?] at h
  | .dict entries, b, _, _, h, c, _ => by
    cases b with
    | dict others => rw [compare?_dict, compare?_dict]
    | _ => simp [same, sameNumber, sameMagnitude, magnitude?] at h
  | .null, _, _, _, h, c, _ | .bool _, _, _, _, h, c, _ | .int _, _, _, _, h, c, _
  | .float _, _, _, _, h, c, _ | .text _, _, _, _, h, c, _ | .bytes _, _, _, _, h, c, _
  | .timestamp _, _, _, _, h, c, _ | .date _, _, _, _, h, c, _ | .ref _, _, _, _, h, c, _ =>
    compare?_congr_leaf rfl h c
  | .record .., _, h, _, _, _, _ | .accessor _, _, h, _, _, _, _ | .thunk _, _, h, _, _, _, _
  | .query _, _, h, _, _, _, _ | .rows _, _, h, _, _, _, _ | .closure .., _, h, _, _, _, _
  | .foreign _, _, h, _, _, _, _ => absurd h.plain (by simp [isPlain])

theorem compareList?_congr : {items others : List Value} → (∀ v ∈ items, v.IsData) →
    (∀ v ∈ others, v.IsData) → sameList items others = true → {more : List Value} →
    (∀ v ∈ more, v.IsData) → compareList? items more = compareList? others more
  | [], [], _, _, _, _, _ => rfl
  | [], _ :: _, _, _, h, _, _ => by simp [sameList] at h
  | _ :: _, [], _, _, h, _, _ => by simp [sameList] at h
  | _ :: _, _ :: _, _, _, _, [], _ => rfl
  | a :: items, b :: others, ha, hb, h, c :: more, hc => by
    obtain ⟨ha, hitems⟩ := List.forall_mem_cons.1 ha
    obtain ⟨hb, hothers⟩ := List.forall_mem_cons.1 hb
    obtain ⟨hc, hmore⟩ := List.forall_mem_cons.1 hc
    simp only [sameList, Bool.and_eq_true] at h
    have hsame : a.same c = b.same c := by
      rw [Bool.eq_iff_iff]
      exact ⟨same_trans hb ha hc (same_symm ha hb h.1), same_trans ha hb hc h.1⟩
    rw [compareList?, compareList?, hsame, compareList?_congr hitems hothers h.2 hmore,
      compare?_congr ha hb h.1 hc]

end

mutual

/-- What neither comes before nor after a value of its kind is the same. -/
theorem same_of_equal : {a b : Value} → a.IsData → a.compare? b = some .equal → a.same b = true
  | .list items, b, ha, h => by
    cases b with
    | list others => exact sameList_of_equal (isData_list.1 ha) h
    | _ => simp [compare?, magnitude?] at h
  | .tuple items, b, ha, h => by
    cases b with
    | tuple others => exact sameList_of_equal (isData_tuple.1 ha) h
    | _ => simp [compare?, magnitude?] at h
  | .dict entries, b, _, h => by
    rw [compare?_dict] at h
    cases h
  | .null, _, _, h | .bool _, _, _, h | .int _, _, _, h | .float _, _, _, h | .text _, _, _, h
  | .bytes _, _, _, h | .timestamp _, _, _, h | .date _, _, _, h | .ref _, _, _, h =>
    same_of_equal_leaf rfl h
  | .record .., _, h, _ | .accessor _, _, h, _ | .thunk _, _, h, _ | .query _, _, h, _
  | .rows _, _, h, _ | .closure .., _, h, _ | .foreign _, _, h, _ =>
    absurd h.plain (by simp [isPlain])

theorem sameList_of_equal : {items others : List Value} → (∀ v ∈ items, v.IsData) →
    compareList? items others = some .equal → sameList items others = true
  | [], [], _, _ => rfl
  | [], _ :: _, _, h => by simp [compareList?] at h
  | _ :: _, [], _, h => by simp [compareList?] at h
  | a :: items, b :: others, ha, h => by
    obtain ⟨ha, hitems⟩ := List.forall_mem_cons.1 ha
    rw [compareList?] at h
    split at h
    · rename_i hsame
      rw [sameList, hsame, sameList_of_equal hitems h]
      rfl
    · exact absurd (same_of_equal ha h) ‹_›

end

/-- A value is not less than one that is the same. -/
theorem not_less_of_same (ha : a.IsData) (hb : b.IsData) (h : a.same b = true) :
    a.compare? b ≠ some .less := by
  have hself := compare?_swap hb hb
  rw [compare?_congr ha hb h hb]
  intro hless
  rw [hless] at hself
  cases hself

/-- Values that are the same, or of which one comes before the other. -/
def Comparable (a b : Value) : Prop :=
  a.same b = true ∨ ∃ k, a.compare? b = some k ∧ k ≠ .unordered

instance (a b : Value) : Decidable (a.Comparable b) :=
  decidable_of_iff (a.same b = true ∨ (a.compare? b).any (· != .unordered) = true) (by
    simp [Comparable, Option.any_eq_true])

/-- Elements that are the first to differ are comparable if the lists are. -/
theorem Comparable.head {items others : List Value} (hdiffer : a.same b = false)
    (h : sameList (a :: items) (b :: others) = true ∨
      ∃ k, compareList? (a :: items) (b :: others) = some k ∧ k ≠ .unordered) :
    a.Comparable b := by
  simp only [sameList, compareList?, hdiffer, Bool.false_and, Bool.false_eq_true, if_false,
    false_or] at h
  exact Or.inr h

theorem Comparable.tail {items others : List Value} (hsame : a.same b = true)
    (h : sameList (a :: items) (b :: others) = true ∨
      ∃ k, compareList? (a :: items) (b :: others) = some k ∧ k ≠ .unordered) :
    sameList items others = true ∨ ∃ k, compareList? items others = some k ∧ k ≠ .unordered := by
  simpa only [sameList, compareList?, hsame, Bool.true_and, if_true] using h

mutual

/-- **The order leads on**, as long as the ends can be compared. -/
theorem less_trans : {a b c : Value} → a.IsData → b.IsData → c.IsData →
    a.compare? b = some .less → b.compare? c = some .less → a.Comparable c →
    a.compare? c = some .less
  | .list items, b, c, ha, hb, hc, hab, hbc, hac => by
    cases b with
    | list middle =>
      cases c with
      | list others =>
        exact lessList_trans (isData_list.1 ha) (isData_list.1 hb) (isData_list.1 hc) hab hbc hac
      | _ => simp [compare?, magnitude?] at hbc
    | _ => simp [compare?, magnitude?] at hab
  | .tuple items, b, c, ha, hb, hc, hab, hbc, hac => by
    cases b with
    | tuple middle =>
      cases c with
      | tuple others =>
        exact lessList_trans (isData_tuple.1 ha) (isData_tuple.1 hb) (isData_tuple.1 hc) hab hbc hac
      | _ => simp [compare?, magnitude?] at hbc
    | _ => simp [compare?, magnitude?] at hab
  | .dict entries, b, _, _, _, _, hab, _, _ => by
    rw [compare?_dict] at hab
    cases hab
  | .null, _, _, _, _, _, hab, hbc, _ | .bool _, _, _, _, _, _, hab, hbc, _
  | .int _, _, _, _, _, _, hab, hbc, _ | .float _, _, _, _, _, _, hab, hbc, _
  | .text _, _, _, _, _, _, hab, hbc, _ | .bytes _, _, _, _, _, _, hab, hbc, _
  | .timestamp _, _, _, _, _, _, hab, hbc, _ | .date _, _, _, _, _, _, hab, hbc, _
  | .ref _, _, _, _, _, _, hab, hbc, _ => less_trans_leaf rfl hab hbc
  | .record .., _, _, h, _, _, _, _, _ | .accessor _, _, _, h, _, _, _, _, _
  | .thunk _, _, _, h, _, _, _, _, _ | .query _, _, _, h, _, _, _, _, _
  | .rows _, _, _, h, _, _, _, _, _ | .closure .., _, _, h, _, _, _, _, _
  | .foreign _, _, _, h, _, _, _, _, _ => absurd h.plain (by simp [isPlain])

theorem lessList_trans : {items middle others : List Value} → (∀ v ∈ items, v.IsData) →
    (∀ v ∈ middle, v.IsData) → (∀ v ∈ others, v.IsData) →
    compareList? items middle = some .less → compareList? middle others = some .less →
    (sameList items others = true ∨ ∃ k, compareList? items others = some k ∧ k ≠ .unordered) →
    compareList? items others = some .less
  | [], [], _, _, _, _, hab, _, _ => by simp [compareList?] at hab
  | _ :: _, [], _, _, _, _, hab, _, _ => by simp [compareList?] at hab
  | _, _ :: _, [], _, _, _, _, hbc, _ => by simp [compareList?] at hbc
  | [], _ :: _, _ :: _, _, _, _, _, _, _ => rfl
  | a :: items, b :: middle, c :: others, ha, hb, hc, hab, hbc, hac => by
    obtain ⟨ha, hitems⟩ := List.forall_mem_cons.1 ha
    obtain ⟨hb, hmiddle⟩ := List.forall_mem_cons.1 hb
    obtain ⟨hc, hothers⟩ := List.forall_mem_cons.1 hc
    rw [compareList?] at hab hbc
    -- where the first two differ, and where the last two do
    split at hab <;> split at hbc <;> rename_i hsameab hsamebc
    · have hsame : a.same c = true := same_trans ha hb hc hsameab hsamebc
      rw [compareList?, if_pos hsame]
      exact lessList_trans hitems hmiddle hothers hab hbc (Comparable.tail hsame hac)
    · have hdiffer : ¬ a.same c = true := fun h =>
        hsamebc (same_trans hb ha hc (same_symm ha hb hsameab) h)
      rw [compareList?, if_neg hdiffer, compare?_congr ha hb hsameab hc, hbc]
    · have hdiffer : ¬ a.same c = true := fun h =>
        hsameab (same_trans ha hc hb h (same_symm hb hc hsamebc))
      have hca : c.compare? a = b.compare? a :=
        compare?_congr hc hb (same_symm hb hc hsamebc) ha
      rw [compareList?, if_neg hdiffer, compare?_swap hc ha, hca, ← compare?_swap hb ha, hab]
    · have hdiffer : ¬ a.same c = true := by
        intro hsame
        have hcb : c.compare? b = some .less := by
          rw [← compare?_congr ha hc hsame hb, hab]
        rw [compare?_swap hb hc, hbc] at hcb
        cases hcb
      rw [compareList?, if_neg hdiffer]
      exact less_trans ha hb hc hab hbc (Comparable.head (eq_false_of_ne_true hdiffer) hac)

end

/-- **Values that are comparable** are the same, or one comes before the other. -/
theorem Comparable.cases (ha : a.IsData) (hb : b.IsData) (h : a.Comparable b) :
    a.compare? b = some .less ∨ a.same b = true ∨ b.compare? a = some .less := by
  rcases h with hsame | ⟨k, hk, hne⟩
  · exact Or.inr (Or.inl hsame)
  · cases k with
    | less => exact Or.inl hk
    | equal => exact Or.inr (Or.inl (same_of_equal ha hk))
    | greater => exact Or.inr (Or.inr (by rw [compare?_swap ha hb, hk]; rfl))
    | unordered => exact absurd rfl hne

/-- If neither of two values comes before the next, the last does not come before the first. -/
theorem not_less_trans (ha : a.IsData) (hb : b.IsData) (hc : c.IsData) (hab : a.Comparable b)
    (hbc : b.Comparable c) (hac : a.Comparable c) (h₁ : a.compare? b ≠ some .less)
    (h₂ : b.compare? c ≠ some .less) : a.compare? c ≠ some .less := by
  have hba := (hab.cases ha hb).resolve_left h₁
  have hcb := (hbc.cases hb hc).resolve_left h₂
  intro hless
  have hca : c.compare? a ≠ some .less := by
    rw [compare?_swap ha hc, hless]
    simp [Comparison.swap]
  rcases hba with hsame | hba
  · rw [compare?_congr ha hb hsame hc] at hless
    exact h₂ hless
  · rcases hcb with hsame | hcb
    · have hcba : c.compare? a = some .less := by
        rw [← compare?_congr hb hc hsame ha, hba]
      exact hca hcba
    · refine hca (less_trans hc hb ha hcb hba ?_)
      rcases hac.cases ha hc with hac | hac | hac
      · exact Or.inr ⟨.greater, by rw [compare?_swap ha hc, hac]; rfl, by simp⟩
      · exact Or.inl (same_symm ha hc hac)
      · exact absurd hac hca

/-! ## The order of an index -/

/-- Whether an index puts one value before another: null comes last, and a reference goes by its
id. -/
def before (a b : Value) : Bool :=
  match a, b with
  | .null, _ => false
  | _, .null => true
  | a, b => a.sortKey.compare? b.sortKey == some .less

/-- An index can tell which of two values comes first. -/
def Ordered (a b : Value) : Prop :=
  a = .null ∨ b = .null ∨ a.sortKey.Comparable b.sortKey

theorem isNull_iff : a.isNull = true ↔ a = .null := by
  cases a <;> simp [isNull]

instance (a b : Value) : Decidable (a.Ordered b) :=
  decidable_of_iff (a.isNull = true ∨ b.isNull = true ∨ a.sortKey.Comparable b.sortKey) (by
    rw [Ordered, isNull_iff, isNull_iff])

theorem isData_sortKey (ha : a.IsData) : a.sortKey.IsData := by
  cases a with
  | ref r => exact ⟨rfl, trivial⟩
  | _ => exact ha

@[simp] theorem before_null_left (b : Value) : before .null b = false := rfl

theorem before_null_right (ha : a ≠ .null) : a.before .null = true := by
  cases a with
  | null => exact absurd rfl ha
  | _ => rfl

/-- Values other than null are put in the order of their kind. -/
theorem before_iff (ha : a ≠ .null) (hb : b ≠ .null) :
    a.before b = true ↔ a.sortKey.compare? b.sortKey = some .less := by
  unfold before
  split
  · exact absurd rfl ha
  · exact absurd rfl hb
  · exact beq_iff_eq

/-- **The question of an index** is answered by the order of the values. -/
theorem comesBefore_eq (ha : a.IsData) (hb : b.IsData) (h : a.Ordered b) :
    a.comesBefore b = .ok (a.before b) := by
  by_cases hanull : a = .null
  · rw [hanull]
    rfl
  · by_cases hbnull : b = .null
    · rw [hbnull, before_null_right hanull]
      cases a <;> first | exact absurd rfl hanull | rfl
    · have hcomes : a.comesBefore b = if a.sortKey.same b.sortKey then .ok false
          else a.sortKey.isLess b.sortKey := by
        cases a <;> first | exact absurd rfl hanull | skip
        all_goals cases b <;> first | exact absurd rfl hbnull | rfl
      have hcomparable := (h.resolve_left hanull).resolve_left hbnull
      rw [hcomes]
      by_cases hsame : a.sortKey.same b.sortKey = true
      · have hnot : ¬ a.before b = true := by
          rw [before_iff hanull hbnull]
          exact not_less_of_same (isData_sortKey ha) (isData_sortKey hb) hsame
        rw [if_pos hsame, eq_false_of_ne_true hnot]
      · obtain ⟨k, hk, -⟩ := hcomparable.resolve_left hsame
        rw [if_neg hsame, isLess, hk]
        refine congrArg Except.ok ?_
        rw [Bool.eq_iff_iff, before_iff hanull hbnull, hk, beq_iff_eq, Option.some.injEq]

theorem before_asymm (ha : a.IsData) (hb : b.IsData) (h : a.before b = true) :
    b.before a = false := by
  by_cases hbnull : b = .null
  · rw [hbnull, before_null_left]
  · have hanull : a ≠ .null := by
      rintro rfl
      cases h
    rw [before_iff hanull hbnull] at h
    rw [← Bool.not_eq_true, before_iff hbnull hanull,
      compare?_swap (isData_sortKey ha) (isData_sortKey hb), h]
    simp [Comparison.swap]

/-- **The order of an index leads on** where it does not put one value before the next. -/
theorem before_trans (ha : a.IsData) (hb : b.IsData) (hc : c.IsData) (hab : a.Ordered b)
    (hbc : b.Ordered c) (hac : a.Ordered c) (h₁ : a.before b = false) (h₂ : b.before c = false) :
    a.before c = false := by
  by_cases hanull : a = .null
  · rw [hanull, before_null_left]
  · have hbnull : b ≠ .null := by
      rintro rfl
      rw [before_null_right hanull] at h₁
      cases h₁
    have hcnull : c ≠ .null := by
      rintro rfl
      rw [before_null_right hbnull] at h₂
      cases h₂
    rw [← Bool.not_eq_true, before_iff hanull hbnull] at h₁
    rw [← Bool.not_eq_true, before_iff hbnull hcnull] at h₂
    rw [← Bool.not_eq_true, before_iff hanull hcnull]
    exact not_less_trans (isData_sortKey ha) (isData_sortKey hb) (isData_sortKey hc)
      ((hab.resolve_left hanull).resolve_left hbnull)
      ((hbc.resolve_left hbnull).resolve_left hcnull) ((hac.resolve_left hanull).resolve_left hcnull) h₁ h₂

end Value

end DocMapper
