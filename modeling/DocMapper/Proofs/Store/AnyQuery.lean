import DocMapper.Proofs.Query.Keeping
import DocMapper.Proofs.Store.Filed
/-!
# What any query does to a store

A query reaches the store through its operations alone, and each of them makes a change of the
documents (`Store.Change`), adds a collection or an index under a name that is free, or does nothing.
Whatever these keep is therefore kept by every query (`Store.KeptByWrites.of_changes`): documents
stay filed, and an index that is there stays as it is (`Store.keptByWrites_indexed`).
-/

namespace DocMapper.Store

open Action Model

variable {P : Store → Prop} {s : Store}

/-! ## The operations -/

/-- What follows a computation without effects keeps something if it does so on its result. -/
theorem snd_lift_bind {α β : Type} {r : Except Fault α} {next : α → Action Store β} (hs : P s)
    (hnext : ∀ a, r = .ok a → P ((next a).perform s).2) : P ((liftM r >>= next).perform s).2 := by
  rw [perform_bind, perform_liftM]
  cases hr : r with
  | error fault => exact hs
  | ok a => exact hnext a hr

/-- A store became another one by a change of its documents. -/
def Changed (s t : Store) : Prop := ∃ change : Change, change.Did s t

theorem Changed.refl (s : Store) : Changed s s := ⟨_, .nothing (.take "" "") s⟩

/-- The document that a reference names is at the place that it names. -/
theorem find_of_documentOf {target : Value} {doc : StoredDocument} {place : String × String}
    (hdoc : s.documentOf target = .ok doc) (hplace : address target = .ok place) :
    s.find place.1 place.2 = some doc := by
  obtain ⟨⟨c, i⟩, hplace', hdoc⟩ := Except.bind_eq_ok.1 hdoc
  cases hplace.symm.trans hplace'
  cases hfind : s.find c i with
  | none =>
    simp only [hfind] at hdoc
    cases hdoc
  | some found =>
    simp only [hfind] at hdoc
    exact congrArg some (Except.ok.inj hdoc)

theorem changed_create (collection params : Value) (s : Store) :
    Changed s ((create collection params).perform s).2 := by
  unfold create
  rw [perform_bind, perform_get]
  refine snd_lift_bind (Changed.refl s) fun name _ => ?_
  by_cases hhas : s.collections.has (.text name) = true
  · simp only [hhas, Bool.not_true, Bool.false_eq_true, if_false]
    refine snd_lift_bind (Changed.refl s) fun data _ => ?_
    refine snd_lift_bind (Changed.refl s) fun _ hunique => ?_
    refine snd_lift_bind (Changed.refl s) fun entries _ => ?_
    exact ⟨.create name data (Value.lookup entries "ttl"), .created hhas hunique⟩
  · simp only [hhas, Bool.not_false, if_true]
    exact Changed.refl s

theorem changed_write (w : Writing) (target data : Value) (s : Store) :
    Changed s ((write target fun old => w.result old data).perform s).2 := by
  unfold write
  rw [perform_bind, perform_get]
  refine snd_lift_bind (Changed.refl s) fun doc hdoc => ?_
  refine snd_lift_bind (Changed.refl s) fun place hplace => ?_
  refine snd_lift_bind (Changed.refl s) fun _ hunique => ?_
  exact ⟨.write w place.1 place.2 data, .wrote (find_of_documentOf hdoc hplace) hunique⟩

theorem changed_delete (target : Value) (s : Store) :
    Changed s ((delete target).perform s).2 := by
  unfold delete
  rw [perform_bind, perform_get]
  refine snd_lift_bind (Changed.refl s) fun doc hdoc => ?_
  refine snd_lift_bind (Changed.refl s) fun place hplace => ?_
  exact ⟨_, .took (find_of_documentOf hdoc hplace)⟩

theorem createCollection_cases (params : Value) (s : Store) :
    ((createCollection params).perform s).2 = s ∨
      ∃ key, s.collections.has key = false ∧ ((createCollection params).perform s).2 =
        { s with collections := s.collections.put key [] } := by
  let P : Store → Prop := fun t => t = s ∨
    ∃ key, s.collections.has key = false ∧ t = { s with collections := s.collections.put key [] }
  have hs : P s := Or.inl rfl
  unfold createCollection
  rw [perform_bind, perform_get]
  refine snd_lift_bind hs fun named _ => ?_
  by_cases hhas : s.collections.has named.2 = true
  · simp only [hhas, if_true]
    exact hs
  · simp only [hhas, Bool.false_eq_true, if_false]
    exact Or.inr ⟨named.2, eq_false_of_ne_true hhas, rfl⟩

theorem createIndex_cases (params : Value) (s : Store) :
    ((createIndex params).perform s).2 = s ∨
      ∃ key entries, s.indexes.has key = false ∧ ((createIndex params).perform s).2 =
        { s with indexes := s.indexes.put key entries } := by
  let P : Store → Prop := fun t => t = s ∨
    ∃ key entries, s.indexes.has key = false ∧ t = { s with indexes := s.indexes.put key entries }
  have hs : P s := Or.inl rfl
  unfold createIndex
  rw [perform_bind, perform_get]
  refine snd_lift_bind hs fun named _ => ?_
  by_cases hhas : s.indexes.has named.2 = true
  · simp only [hhas, if_true]
    exact hs
  · simp only [hhas, Bool.false_eq_true, if_false]
    refine snd_lift_bind hs fun source _ => snd_lift_bind hs fun id _ => ?_
    by_cases hid : s.collections.has (.text id) = true
    · simp only [hid, Bool.not_true, Bool.false_eq_true, if_false]
      refine snd_lift_bind hs fun entries _ => ?_
      exact Or.inr ⟨named.2, entries, eq_false_of_ne_true hhas, rfl⟩
    · simp only [hid, Bool.not_false, if_true]
      exact hs

/-! ## Queries -/

/-- **What changes of documents and new names keep, every query keeps.** -/
theorem KeptByWrites.of_changes (hchange : ∀ s t, Changed s t → P s → P t)
    (hcollection : ∀ s key, s.collections.has key = false → P s →
      P { s with collections := s.collections.put key [] })
    (hindex : ∀ s key entries, s.indexes.has key = false → P s →
      P { s with indexes := s.indexes.put key entries }) : KeptByWrites P where
  create collection params s := hchange s _ (changed_create collection params s)
  update target params s hs := by
    unfold Store.update
    exact snd_lift_bind hs fun data _ => hchange s _ (changed_write .update target data s) hs
  replace target params s hs := by
    unfold Store.replace
    exact snd_lift_bind hs fun data _ => hchange s _ (changed_write .replace target data s) hs
  delete target s := hchange s _ (changed_delete target s)
  createCollection params s hs := by
    rcases createCollection_cases params s with heq | ⟨key, hkey, heq⟩
    · rw [heq]
      exact hs
    · rw [heq]
      exact hcollection s key hkey hs
  createIndex params s hs := by
    rcases createIndex_cases params s with heq | ⟨key, entries, hkey, heq⟩
    · rw [heq]
      exact hs
    · rw [heq]
      exact hindex s key entries hkey hs

/-- A new collection has no documents, and the others have what they had. -/
theorem documents_putEmpty {key : Key} (h : s.collections.has key = false) (c : String) :
    documents { s with collections := s.collections.put key [] } c = s.documents c := by
  unfold documents
  by_cases hc : key.same (.text c) = true
  · have hnone : s.collections.get? key = none := by simpa [Dict.has] using h
    rw [← Dict.get?_congr _ hc, ← Dict.get?_congr _ hc, Dict.get?_put_self, hnone]
    rfl
  · rw [Dict.get?_put_of_not_same _ _ (eq_false_of_ne_true hc)]

theorem Filed.putEmpty (hs : s.Filed) {key : Key} (h : s.collections.has key = false) :
    Filed { s with collections := s.collections.put key [] } where
  distinct := by
    refine ⟨hs.distinct.collections.put _ _, fun e he => ?_⟩
    rcases Dict.mem_put he with ⟨hv, -⟩ | hmem
    · rw [hv]
      exact Dict.distinct_nil
    · exact hs.distinct.documents e hmem
  placed c e he := by
    rw [documents_putEmpty h] at he
    exact hs.placed c e he

/-- Documents are filed, and an index is there with some parameters. -/
structure Indexed (full : String) (params : IndexParams) (s : Store) : Prop where
  filed : s.Filed
  get? : s.indexes.get? (.text full) = some params

/-- **Every query keeps documents filed and indexes as they are.** -/
theorem keptByWrites_indexed (full : String) (params : IndexParams) :
    KeptByWrites (Indexed full params) := by
  refine KeptByWrites.of_changes ?_ ?_ ?_
  · rintro s t ⟨change, hdid⟩ hs
    exact ⟨hdid.filed hs.filed, by rw [hdid.indexes_eq, hs.get?]⟩
  · intro s key hkey hs
    exact ⟨hs.filed.putEmpty hkey, hs.get?⟩
  · intro s key entries hkey hs
    refine ⟨⟨⟨hs.filed.distinct.collections, hs.filed.distinct.documents⟩, hs.filed.placed⟩, ?_⟩
    have hother : key.same (.text full) = false := by
      by_contra hsame
      have hget := Dict.get?_congr s.indexes (by simpa using hsame)
      rw [Dict.has, hget, hs.get?] at hkey
      cases hkey
    exact (Dict.get?_put_of_not_same _ _ hother).trans hs.get?

end DocMapper.Store
