import DocMapper.Proofs.Data.Distinct
import DocMapper.Store.Evaluate
import DocMapper.Wire.Sending
/-!
# Plain data in queries

Plain data holds no instances, expressions or functions (`Value.isPlain`). In a query it stands for
itself: it is evaluated without any effect, whatever names are bound (`Store.evaluateWith_plain`).
All that changes is that its tuples come to lists (`Value.settled`), since the query language has
one kind of sequence; data without tuples stays as it is (`Value.settled_of_isUntupled`).

Plain data can always be sent (`Value.unstorable?_toWire`), for only instances may lack a stored
form.
-/

namespace DocMapper

namespace Value

mutual

/-- Whether a value is data and nothing else. -/
def isPlain : Value → Bool
  | .list items => arePlain items
  | .tuple items => arePlain items
  | .dict entries => arePlainEntries entries
  | .record .. => false
  | .accessor _ => false
  | .thunk _ => false
  | .query _ => false
  | .rows _ => false
  | .closure .. => false
  | .foreign _ => false
  | _ => true

/-- Whether each element is plain data. -/
def arePlain : List Value → Bool
  | [] => true
  | v :: rest => v.isPlain && arePlain rest

/-- Whether the value of each entry is plain data. -/
def arePlainEntries : List (Key × Value) → Bool
  | [] => true
  | (_, v) :: rest => v.isPlain && arePlainEntries rest

end

theorem arePlain_eq_true {items : List Value} :
    arePlain items = true ↔ ∀ v ∈ items, v.isPlain = true := by
  induction items with
  | nil => simp [arePlain]
  | cons v rest ih => simp [arePlain, ih]

theorem arePlainEntries_eq_true {entries : List (Key × Value)} :
    arePlainEntries entries = true ↔ ∀ e ∈ entries, e.2.isPlain = true := by
  induction entries with
  | nil => simp [arePlainEntries]
  | cons e rest ih => simp [arePlainEntries, ih]

theorem isPlain_list {items : List Value} :
    (list items).isPlain = true ↔ ∀ v ∈ items, v.isPlain = true := by
  rw [isPlain, arePlain_eq_true]

theorem isPlain_tuple {items : List Value} :
    (tuple items).isPlain = true ↔ ∀ v ∈ items, v.isPlain = true := by
  rw [isPlain, arePlain_eq_true]

theorem isPlain_dict {entries : List (Key × Value)} :
    (dict entries).isPlain = true ↔ ∀ e ∈ entries, e.2.isPlain = true := by
  rw [isPlain, arePlainEntries_eq_true]

mutual

/-- What plain data comes to in a query: tuples come to lists. -/
def settled : Value → Value
  | .list items => .list (settledList items)
  | .tuple items => .list (settledList items)
  | .dict entries => .dict (settledEntries entries)
  | v => v

/-- `settled` on each element. -/
def settledList : List Value → List Value
  | [] => []
  | v :: rest => v.settled :: settledList rest

/-- `settled` on each entry. -/
def settledEntries : List (Key × Value) → List (Key × Value)
  | [] => []
  | (k, v) :: rest => (k, v.settled) :: settledEntries rest

end

mutual

/-- Whether no tuple stands in a list or dictionary of a value, nor is the value one. -/
def isUntupled : Value → Bool
  | .list items => areUntupled items
  | .tuple _ => false
  | .dict entries => areUntupledEntries entries
  | _ => true

/-- Whether each element is without tuples. -/
def areUntupled : List Value → Bool
  | [] => true
  | v :: rest => v.isUntupled && areUntupled rest

/-- Whether the value of each entry is without tuples. -/
def areUntupledEntries : List (Key × Value) → Bool
  | [] => true
  | (_, v) :: rest => v.isUntupled && areUntupledEntries rest

end

mutual

theorem settled_of_isUntupled : {v : Value} → v.isUntupled = true → v.settled = v
  | .list items, h => by
    have hitems : areUntupled items = true := by simpa [isUntupled] using h
    rw [settled, settledList_of_areUntupled hitems]
  | .dict entries, h => by
    have hentries : areUntupledEntries entries = true := by simpa [isUntupled] using h
    rw [settled, settledEntries_of_areUntupled hentries]
  | .tuple _, h => by simp [isUntupled] at h
  | .null, _ | .bool _, _ | .int _, _ | .float _, _ | .text _, _ | .bytes _, _ | .timestamp _, _
  | .date _, _ | .ref _, _ | .record .., _ | .accessor _, _ | .thunk _, _ | .query _, _
  | .rows _, _ | .closure .., _ | .foreign _, _ => by simp only [settled]

theorem settledList_of_areUntupled :
    {items : List Value} → areUntupled items = true → settledList items = items
  | [], _ => rfl
  | v :: rest, h => by
    simp only [areUntupled, Bool.and_eq_true] at h
    rw [settledList, settled_of_isUntupled h.1, settledList_of_areUntupled h.2]

theorem settledEntries_of_areUntupled :
    {entries : List (Key × Value)} → areUntupledEntries entries = true →
      settledEntries entries = entries
  | [], _ => rfl
  | (k, v) :: rest, h => by
    simp only [areUntupledEntries, Bool.and_eq_true] at h
    rw [settledEntries, settled_of_isUntupled h.1, settledEntries_of_areUntupled h.2]

end

end Value

/-! ## Evaluation -/

namespace Store

open Value

variable (apply : Value → Value → Action Evaluation Value)

mutual

/-- **Plain data stands for itself**: it is evaluated without effect under any bindings. -/
theorem evaluateWith_plain : {v : Value} → v.isPlain = true → (scope : Scope) →
    evaluateWith apply v scope = pure v.settled
  | .list items, h, scope => by
    have hitems : arePlain items = true := by simpa [isPlain] using h
    rw [evaluateWith, evaluateList_plain hitems]
    rfl
  | .tuple items, h, scope => by
    have hitems : arePlain items = true := by simpa [isPlain] using h
    rw [evaluateWith, evaluateList_plain hitems]
    rfl
  | .dict entries, h, scope => by
    have hentries : arePlainEntries entries = true := by simpa [isPlain] using h
    rw [evaluateWith, evaluateEntries_plain hentries]
    rfl
  | .null, _, _ | .bool _, _, _ | .int _, _, _ | .float _, _, _ | .text _, _, _ | .bytes _, _, _
  | .timestamp _, _, _ | .date _, _, _ | .ref _, _, _ => by simp only [evaluateWith, settled]
  | .record .., h, _ | .accessor _, h, _ | .thunk _, h, _ | .query _, h, _ | .rows _, h, _
  | .closure .., h, _ | .foreign _, h, _ => by simp [isPlain] at h

theorem evaluateList_plain : {items : List Value} → arePlain items = true → (scope : Scope) →
    evaluateList apply items scope = pure (settledList items)
  | [], _, _ => rfl
  | v :: rest, h, scope => by
    simp only [arePlain, Bool.and_eq_true] at h
    rw [evaluateList, evaluateWith_plain h.1, evaluateList_plain h.2]
    rfl

theorem evaluateEntries_plain : {entries : List (Key × Value)} → arePlainEntries entries = true →
    (scope : Scope) → evaluateEntries apply entries scope = pure (settledEntries entries)
  | [], _, _ => rfl
  | (k, v) :: rest, h, scope => by
    simp only [arePlainEntries, Bool.and_eq_true] at h
    rw [evaluateEntries, evaluateWith_plain h.1, evaluateEntries_plain h.2]
    rfl

end

end Store

/-! ## Sending -/

namespace Wire

theorem unstorableMember?_eq_none {members : List (Key × Wire)} :
    unstorableMember? members = none ↔ ∀ e ∈ members, e.2.unstorable? = none := by
  induction members with
  | nil => simp [unstorableMember?]
  | cons entry rest ih => simp [unstorableMember?, ih]

/-- Repeated keys take nothing that could not be stored into an object. -/
theorem unstorableMember?_ofEntries {entries : List (Key × Wire)}
    (h : unstorableMember? entries = none) : unstorableMember? (Dict.ofEntries entries) = none := by
  rw [unstorableMember?_eq_none] at h ⊢
  have key : ∀ (entries d : List (Key × Wire)), (∀ e ∈ entries, e.2.unstorable? = none) →
      (∀ e ∈ d, e.2.unstorable? = none) → ∀ e ∈ Dict.putAll d entries, e.2.unstorable? = none := by
    intro entries
    induction entries with
    | nil => intro d _ hd; exact hd
    | cons entry rest ih =>
      intro d he hd
      obtain ⟨hentry, hrest⟩ := List.forall_mem_cons.1 he
      refine ih _ hrest fun e hmem => ?_
      rcases Dict.mem_put hmem with ⟨hv, -⟩ | hmem
      · rw [hv]; exact hentry
      · exact hd e hmem
  exact key entries [] h (by simp)

end Wire

theorem Ref.unstorable?_toWire : (r : Ref) → r.toWire.unstorable? = none
  | ⟨id, none, none⟩ => rfl
  | ⟨id, some c, none⟩ => by
    simp [toWire, Wire.unstorable?, Wire.unstorableMember?, Wire.single, unstorable?_toWire c]
  | ⟨id, none, some d⟩ => by
    simp [toWire, Wire.unstorable?, Wire.unstorableMember?, Wire.single, unstorable?_toWire d]
  | ⟨id, some c, some d⟩ => by
    simp [toWire, Wire.unstorable?, Wire.unstorableMember?, Wire.single, unstorable?_toWire c,
      unstorable?_toWire d]

namespace Value

mutual

/-- **Plain data can be sent.** -/
theorem unstorable?_toWire : {v : Value} → v.isPlain = true → v.toWire.unstorable? = none
  | .list items, h => by
    have hitems : arePlain items = true := by simpa [isPlain] using h
    rw [toWire, Wire.unstorable?, unstorableIn?_toWireList hitems]
  | .tuple items, h => by
    have hitems : arePlain items = true := by simpa [isPlain] using h
    rw [toWire, Wire.unstorable?, unstorableIn?_toWireList hitems]
  | .dict entries, h => by
    have hplain : arePlainEntries entries = true := by simpa [isPlain] using h
    have hentries := unstorableMember?_toWireEntries hplain
    simp [toWire, Wire.single, Wire.unstorable?, Wire.unstorableMember?,
      Wire.unstorableMember?_ofEntries hentries]
  | .ref r, _ => by
    simp [toWire, Wire.single, Wire.unstorable?, Wire.unstorableMember?, r.unstorable?_toWire]
  | .timestamp _, _ | .date _, _ => by
    simp [toWire, Wire.single, Wire.unstorable?, Wire.unstorableMember?]
  | .null, _ | .bool _, _ | .int _, _ | .float _, _ | .text _, _ | .bytes _, _ => by
    simp [toWire, Wire.unstorable?]
  | .record .., h | .accessor _, h | .thunk _, h | .query _, h | .rows _, h | .closure .., h
  | .foreign _, h => by simp [isPlain] at h

theorem unstorableIn?_toWireList : {items : List Value} → arePlain items = true →
    Wire.unstorableIn? (toWireList items) = none
  | [], _ => rfl
  | v :: rest, h => by
    simp only [arePlain, Bool.and_eq_true] at h
    simp [toWireList, Wire.unstorableIn?, unstorable?_toWire h.1, unstorableIn?_toWireList h.2]

theorem unstorableMember?_toWireEntries : {entries : List (Key × Value)} →
    arePlainEntries entries = true → Wire.unstorableMember? (toWireEntries entries) = none
  | [], _ => rfl
  | (k, v) :: rest, h => by
    simp only [arePlainEntries, Bool.and_eq_true] at h
    simp [toWireEntries, Wire.unstorableMember?, unstorable?_toWire h.1,
      unstorableMember?_toWireEntries h.2]

end

end Value

end DocMapper
