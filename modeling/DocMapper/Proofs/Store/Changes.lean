import DocMapper.Proofs.Data.Outcome
import DocMapper.Proofs.Query.Yields
import DocMapper.Proofs.Store.Keyed
/-!
# Changes of a store

Every write of a model, of one document or of many, makes some changes to the store, one after
another: data is written to the document of a place, the document of a place is taken away, or a
document comes to a fresh place (`Store.Change`). A refused change leaves the store as it is, and
ends the changes.

What each change keeps, any number of changes keep (`Store.Change.keeps_mapM`); among this are the
indexes, and that names are distinct.
-/

namespace DocMapper.Store

open Action Model

/-- The document of a place is taken away, if there is one. -/
def takeAt (s : Store) (c i : String) : Except Fault (Option StoredDocument) × Store :=
  match s.find c i with
  | none => (.ok none, s)
  | some doc => (.ok (some doc), s.erase c i)

/-- A change of the documents of a store. -/
inductive Change
  /-- data is written to the document of a place, if there is one -/
  | write (w : Writing) (c i : String) (data : Value)
  /-- the document of a place is taken away, if there is one -/
  | take (c i : String)
  /-- a new document comes to a collection -/
  | create (c : String) (data ttl : Value)

namespace Change

/-- Makes a change: the document that it is about, if there is one. -/
def apply : Change → Action Store (Option StoredDocument)
  | write w c i data => .of fun s => s.writeAt w c i data
  | take c i => .of fun s => s.takeAt c i
  | create c data ttl => .of fun s =>
    ((s.createIn c data ttl).1.map some, (s.createIn c data ttl).2)

variable {P : Store → Prop}

/-- **What single changes keep, any number of changes keep**, up to the one that is refused. -/
theorem keeps_mapM {changes : List Change}
    (h : ∀ change ∈ changes, ∀ s, P s → P (change.apply.perform s).2) {s : Store} (hs : P s) :
    P ((changes.mapM apply).perform s).2 := by
  induction changes generalizing s with
  | nil => exact hs
  | cons change rest ih =>
    obtain ⟨hchange, hrest⟩ := List.forall_mem_cons.1 h
    have hnext := hchange s hs
    rw [perform_mapM_cons]
    generalize change.apply.perform s = outcome at hnext
    obtain ⟨_ | found, t⟩ := outcome
    · exact hnext
    · exact ih hrest hnext

/-- **All that a change can do**: nothing, or what it stands for, which no unique index refuses. -/
inductive Did : Change → Store → Store → Prop
  | nothing (change : Change) (s : Store) : Did change s s
  | wrote {s : Store} {w : Writing} {c i : String} {data : Value} {doc : StoredDocument}
      (find : s.find c i = some doc)
      (unique : s.checkUnique c (w.result doc.data data) (some i) = .ok ()) :
      Did (.write w c i data) s (s.putRewritten c i doc (w.result doc.data data))
  | took {s : Store} {c i : String} {doc : StoredDocument} (find : s.find c i = some doc) :
      Did (.take c i) s (s.erase c i)
  | created {s : Store} {c : String} {data ttl : Value} (has : s.collections.has c = true)
      (unique : s.checkUnique c data none = .ok ()) :
      Did (.create c data ttl) s (s.insert c data ttl).1

theorem did_apply (change : Change) (s : Store) : change.Did s (change.apply.perform s).2 := by
  cases change with
  | write w c i data =>
    rw [apply, perform_of, writeAt]
    split
    · exact .nothing _ s
    · rename_i doc hfind
      split
      · exact .nothing _ s
      · exact .wrote hfind ‹_›
  | take c i =>
    rw [apply, perform_of, takeAt]
    split
    · exact .nothing _ s
    · exact .took ‹_›
  | create c data ttl =>
    rw [apply, perform_of, createIn]
    simp only
    split
    · rename_i hhas
      split
      · exact .nothing _ s
      · exact .created hhas ‹_›
    · exact .nothing _ s

variable {change : Change} {s t : Store}

/-- A change that is refused leaves the store as it is. -/
theorem apply_of_error {cause : Fault} (h : (change.apply.perform s).1 = .error cause) :
    (change.apply.perform s).2 = s := by
  have key : (∃ found, (change.apply.perform s).1 = .ok found) ∨ (change.apply.perform s).2 = s := by
    cases change with
    | write w c i data =>
      rw [apply, perform_of, writeAt]
      split
      · exact Or.inr rfl
      · split
        · exact Or.inr rfl
        · exact Or.inl ⟨_, rfl⟩
    | take c i =>
      rw [apply, perform_of, takeAt]
      split
      · exact Or.inr rfl
      · exact Or.inl ⟨_, rfl⟩
    | create c data ttl =>
      rw [apply, perform_of, createIn]
      split
      · split
        · exact Or.inr rfl
        · exact Or.inl ⟨_, rfl⟩
      · exact Or.inr rfl
  rcases key with ⟨found, hfound⟩ | heq
  · rw [hfound] at h
    cases h
  · exact heq

/-- A change leaves the indexes as they are. -/
theorem Did.indexes_eq (h : change.Did s t) : t.indexes = s.indexes := by
  cases h <;> rfl

/-- A change keeps names distinct. -/
theorem Did.distinct (h : change.Did s t) (hs : s.Distinct) : t.Distinct := by
  cases h with
  | nothing => exact hs
  | wrote => exact Distinct.put (s := s.tick) ⟨hs.collections, hs.documents⟩ _ _ _
  | took => exact hs.erase _ _
  | created => exact Distinct.insertAs (s := s.takeId) ⟨hs.collections, hs.documents⟩ _ _ _ _

/-- The data that a change gives to a document of the store. -/
def Makes (s : Store) : Change → Value → Prop
  | write w c i data, made => ∃ doc, s.find c i = some doc ∧ made = w.result doc.data data
  | take .., _ => False
  | create _ data _, made => made = data

/-- **A document that is there after a change** was there before, or has its data from the change. -/
theorem Did.find_or (h : change.Did s t) (hs : s.Distinct) {c i : String} {doc : StoredDocument}
    (hfind : t.find c i = some doc) : s.find c i = some doc ∨ change.Makes s doc.data := by
  cases h with
  | nothing => exact Or.inl hfind
  | @wrote _ w c' i' data old hold =>
    by_cases heq : (c, i) = (c', i')
    · obtain ⟨rfl, rfl⟩ := Prod.mk.inj heq
      rw [find_putRewritten] at hfind
      cases hfind
      exact Or.inr ⟨old, hold, rfl⟩
    · rw [putRewritten, find_put_of_ne _ _ (Ne.symm heq)] at hfind
      exact Or.inl hfind
  | @took _ c' i' =>
    by_cases heq : (c, i) = (c', i')
    · obtain ⟨rfl, rfl⟩ := Prod.mk.inj heq
      rw [hs.find_erase_self] at hfind
      cases hfind
    · rw [find_erase_of_ne _ (Ne.symm heq)] at hfind
      exact Or.inl hfind
  | @created _ c' data ttl =>
    by_cases heq : (c, i) = (c', s.freshId)
    · obtain ⟨rfl, rfl⟩ := Prod.mk.inj heq
      rw [find_insert_self] at hfind
      cases hfind
      exact Or.inr rfl
    · rw [find_insert_of_ne s data ttl heq] at hfind
      exact Or.inl hfind

/-- A document that is there after a change that succeeds was there before, or is what the change
gives. -/
theorem find_or_given (hs : s.Distinct) {found : Option StoredDocument}
    (h : change.apply.perform s = (.ok found, t)) {c i : String} {doc : StoredDocument}
    (hfind : t.find c i = some doc) : s.find c i = some doc ∨ found = some doc := by
  cases change with
  | write w c' i' data =>
    rw [apply, perform_of, writeAt] at h
    split at h
    · cases h
      exact Or.inl hfind
    · rename_i old hold
      split at h
      · cases h
      · cases h
        by_cases heq : (c, i) = (c', i')
        · cases heq
          rw [find_putRewritten] at hfind
          exact Or.inr hfind
        · rw [putRewritten, find_put_of_ne _ _ (Ne.symm heq)] at hfind
          exact Or.inl hfind
  | take c' i' =>
    rw [apply, perform_of, takeAt] at h
    split at h
    · cases h
      exact Or.inl hfind
    · cases h
      by_cases heq : (c, i) = (c', i')
      · cases heq
        rw [hs.find_erase_self] at hfind
        cases hfind
      · rw [find_erase_of_ne _ (Ne.symm heq)] at hfind
        exact Or.inl hfind
  | create c' data ttl =>
    rw [apply, perform_of, createIn] at h
    split at h
    · split at h
      · cases h
      · cases h
        by_cases heq : (c, i) = (c', s.freshId)
        · cases heq
          rw [find_insert_self] at hfind
          exact Or.inr hfind
        · rw [find_insert_of_ne s data ttl heq] at hfind
          exact Or.inl hfind
    · cases h

/-- **A document that is there after changes that succeed** was there before, or is among what they
give. -/
theorem find_or_mem {changes : List Change} (hs : s.Distinct)
    {found : List (Option StoredDocument)}
    (h : ((changes.mapM apply).perform s).1 = .ok found) {c i : String} {doc : StoredDocument}
    (hfind : ((changes.mapM apply).perform s).2.find c i = some doc) :
    s.find c i = some doc ∨ some doc ∈ found := by
  induction changes generalizing s found with
  | nil => exact Or.inl hfind
  | cons change rest ih =>
    rw [perform_mapM_cons] at h hfind
    cases hchange : change.apply.perform s with
    | mk first t =>
      rw [hchange] at h hfind
      cases first with
      | error cause => cases h
      | ok given =>
        obtain ⟨others, hothers, rfl⟩ := Except.map_eq_ok.1 h
        have ht : t.Distinct := by
          have hdid := change.did_apply s
          rw [hchange] at hdid
          exact hdid.distinct hs
        rcases ih ht hothers hfind with hfirst | hmem
        · rcases find_or_given hs hchange hfirst with hbefore | rfl
          · exact Or.inl hbefore
          · exact Or.inr List.mem_cons_self
        · exact Or.inr (List.mem_cons_of_mem _ hmem)

end Change

end DocMapper.Store
