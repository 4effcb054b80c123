import DocMapper.Proofs.Model.Handles
import DocMapper.Proofs.Setup.Provisioning
import DocMapper.Proofs.Store.Changes
/-!
# Stores in which documents are filed

In a store that only writes of queries have filled, every document is under the id of its reference,
in the collection that the reference names (`Store.Filed`). So the references that a collection lists
lead back to its documents (`Store.Filed.fetch`). Every change keeps this
(`Store.Change.Did.filed`).
-/

namespace DocMapper.Store

/-- Every document is under the id that its reference names, in the collection that it names. -/
structure Filed (s : Store) : Prop where
  distinct : s.Distinct
  placed : ∀ c, ∀ e ∈ s.documents c, ∃ i, e.1 = .text i ∧ e.2.place? = some (c, i)

variable {s t : Store} {c i : String} {doc : StoredDocument}

/-- A store without documents has none that are not filed. -/
theorem Bare.filed (hs : s.Bare) : s.Filed where
  distinct := hs.distinct
  placed c e he := by
    rw [hs.documents] at he
    cases he

/-- What a document of a collection is filed under. -/
theorem Filed.exists_key (hs : s.Filed) {e : Key × StoredDocument} (he : e ∈ s.documents c) :
    e.1 = .text e.2.ref.id ∧
      ∃ collection, e.2.ref.collection = some collection ∧ collection.id = c := by
  obtain ⟨i, hk, hplace⟩ := hs.placed c e he
  obtain ⟨collection, hcollection, hpair⟩ := Option.map_eq_some_iff.1 hplace
  obtain ⟨hc, hi⟩ := Prod.mk.inj hpair
  exact ⟨by rw [hk, hi], collection, hcollection, hc⟩

/-- A document of a collection is found under its id. -/
theorem Filed.find_of_mem (hs : s.Filed) {e : Key × StoredDocument} (he : e ∈ s.documents c) :
    s.find c e.2.ref.id = some e.2 := by
  obtain ⟨hk, -⟩ := hs.exists_key he
  rw [find, ← hk]
  exact (hs.distinct.documents_of c).get?_of_mem he

/-- **The reference of a document leads back to it.** -/
theorem Filed.fetch (hs : s.Filed) {e : Key × StoredDocument} (he : e ∈ s.documents c) :
    s.fetch (.ref e.2.ref) = .ok (.dict e.2.members) := by
  have hfind := hs.find_of_mem he
  obtain ⟨-, collection, hcollection, hc⟩ := hs.exists_key he
  have haddress : address (.ref e.2.ref) = .ok (c, e.2.ref.id) := by
    generalize e.2.ref = r at hcollection
    obtain ⟨i, _ | collection, database⟩ := r
    all_goals cases hcollection
    rw [← hc]
    rfl
  simp only [Store.fetch, fetchRef, documentOf, haddress, bind, Except.bind, hfind]
  rfl

/-- A document comes to a place that its reference names. -/
theorem Filed.put (hs : s.Filed) (h : doc.place? = some (c, i)) : (s.put c i doc).Filed where
  distinct := hs.distinct.put c i doc
  placed c' e he := by
    by_cases hc : c = c'
    · subst hc
      rw [documents_put_self] at he
      rcases Dict.mem_put he with ⟨hdoc, hsame⟩ | hmem
      · exact ⟨i, Key.eq_text_of_same hsame, by rwa [hdoc]⟩
      · exact hs.placed c e hmem
    · rw [documents_put_of_ne s i doc hc] at he
      exact hs.placed c' e he

theorem Filed.erase (hs : s.Filed) (c i : String) : (s.erase c i).Filed where
  distinct := hs.distinct.erase c i
  placed c' e he := by
    by_cases hc : c = c'
    · subst hc
      rw [documents_erase_self] at he
      exact hs.placed c e (Dict.mem_of_mem_erase he)
    · rw [documents_erase_of_ne s i hc] at he
      exact hs.placed c' e he

/-- **Every change keeps documents filed.** -/
theorem Change.Did.filed {change : Change} (h : change.Did s t) (hs : s.Filed) : t.Filed := by
  have hticked : s.tick.Filed := ⟨⟨hs.distinct.collections, hs.distinct.documents⟩, hs.placed⟩
  cases h with
  | nothing => exact hs
  | @wrote _ w c i data doc hfind =>
    obtain ⟨k, hmem, hk⟩ := Dict.exists_mem_of_get? hfind
    obtain ⟨j, rfl, hplace⟩ := hs.placed c _ hmem
    have hij : j = i := by simpa using hk
    exact hticked.put (hij ▸ hplace)
  | @took _ c i => exact hs.erase c i
  | @created _ c data ttl =>
    have htaken : s.takeId.tick.Filed :=
      ⟨⟨hs.distinct.collections, hs.distinct.documents⟩, hs.placed⟩
    rw [insert_eq]
    exact htaken.put rfl

end DocMapper.Store
