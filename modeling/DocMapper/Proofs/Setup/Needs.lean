import DocMapper.Proofs.Setup.Provisioning
/-!
# What models need of a store

Setting models up makes sure of a list of needs (`Setup.Need`), one after another: the collection of
each model, then each of its indexes. A need that is met changes nothing, and one that is not adds a
collection or an index at the end (`Need.fill`).

* `Setup.filled_eq` says what filling needs amounts to: the collections and indexes of the store
  stay, and behind them comes what it lacks, of each name the first (`Dict.lacking`).
* `Setup.filled_filled_of_initial` says that filling needs starts anywhere: where some of them, from
  the first on, are filled already, filling them all comes to the same store.
-/

namespace DocMapper

open Store

/-! ## Entries that a dictionary lacks -/

namespace Dict

variable {α : Type}

/-- The entries whose keys a dictionary lacks; of those with one key the first. -/
def lacking (d : Dict α) : List (Key × α) → Dict α
  | [] => []
  | e :: rest => if d.has e.1 then lacking d rest else e :: lacking (d ++ [e]) rest

/-- A key that a dictionary lacks is written at its end. -/
theorem put_of_not_has {d : Dict α} {key : Key} (h : d.has key = false) (value : α) :
    d.put key value = d ++ [(key, value)] := by
  induction d with
  | nil => rfl
  | cons entry rest ih =>
    obtain ⟨k, v⟩ := entry
    by_cases hk : k.same key = true
    · simp [has, get?, hk] at h
    · have hrest : Dict.has rest key = false := by
        simpa [has, get?, hk] using h
      simp only [put, hk, if_false, Bool.false_eq_true, ih hrest, List.cons_append]

/-- **What a dictionary lacks is added behind what it has**: each key finds what it found, or else
the first of the entries that has it. -/
theorem get?_append_lacking (d : Dict α) (entries : List (Key × α)) (key : Key) :
    Dict.get? (d ++ d.lacking entries) key = (d.get? key).or (Dict.get? entries key) := by
  induction entries generalizing d with
  | nil => simp [lacking]
  | cons e rest ih =>
    obtain ⟨k, v⟩ := e
    by_cases hhas : d.has k = true
    · simp only [lacking, hhas, if_true, ih]
      by_cases hk : k.same key = true
      · obtain ⟨found, hfound⟩ := Option.isSome_iff_exists.1 hhas
        have hkey : d.get? key = some found := by rw [← get?_congr d hk, hfound]
        simp [hkey]
      · simp [get?, hk]
    · have hnone : d.get? k = none := Option.not_isSome_iff_eq_none.1 hhas
      simp only [lacking, hhas, if_false, Bool.false_eq_true]
      rw [List.append_cons, ih, get?_append]
      by_cases hk : k.same key = true
      · have hkey : d.get? key = none := by rw [← get?_congr d hk, hnone]
        simp [get?, hk, hkey]
      · simp [get?, hk]

/-- What a dictionary lacks of more entries is what it lacks once it has those before. -/
theorem append_lacking_append (d : Dict α) (entries more : List (Key × α)) :
    d ++ d.lacking (entries ++ more) =
      d ++ d.lacking entries ++ Dict.lacking (d ++ d.lacking entries) more := by
  induction entries generalizing d with
  | nil => simp [lacking]
  | cons e rest ih =>
    by_cases h : d.has e.1 = true
    · simp only [List.cons_append, lacking, h, if_true, ih]
    · have hrest := ih (d ++ [e])
      simp only [List.cons_append, lacking, h, if_false, Bool.false_eq_true]
      simpa using hrest

end Dict

namespace Setup

/-! ## Needs -/

/-- Something that setting up makes sure of. -/
inductive Need
  | collection (name : String)
  /-- an index over a collection, under its full name and with its parameters -/
  | index (source full : String) (params : IndexParams)

namespace Need

/-- Whether a store has what is needed. -/
def met (s : Store) : Need → Bool
  | collection name => s.collections.has name
  | index _ full _ => s.indexes.has full

/-- The store with what is needed. -/
def fill (s : Store) : Need → Store
  | collection name => if s.collections.has name then s else s.addCollection name
  | index _ full params => if s.indexes.has full then s else s.addIndex full params

/-- What making sure of something comes to: what has been added, or null. -/
def reply (s : Store) : Need → Value
  | collection name =>
    if s.collections.has name then .null
    else .object [("ref", .ref (collectionRef name)), ("name", .text name)]
  | index _ full _ =>
    if s.indexes.has full then .null
    else .object [("ref", .ref (indexRef full)), ("name", .text full)]

/-- The collection that an index is over. -/
def source? : Need → Option String
  | collection _ => none
  | index source _ _ => some source

/-- What is needed can be added: the collection that an index is over is there. -/
def Possible (s : Store) (need : Need) : Prop :=
  ∀ source, need.source? = some source → (collection source).met s = true

/-- The collection that is needed. -/
def collection? : Need → Option (Key × Dict StoredDocument)
  | collection name => some (.text name, [])
  | index .. => none

/-- The index that is needed. -/
def index? : Need → Option (Key × IndexParams)
  | collection _ => none
  | index _ full params => some (.text full, params)

variable {s : Store}

theorem fill_of_met {need : Need} (h : need.met s = true) : need.fill s = s := by
  cases need with
  | collection name => exact if_pos h
  | index source full params => exact if_pos h

theorem reply_of_met {need : Need} (h : need.met s = true) : need.reply s = .null := by
  cases need with
  | collection name => exact if_pos h
  | index source full params => exact if_pos h

/-- Filling a need meets it. -/
theorem met_fill (need : Need) (s : Store) : need.met (need.fill s) = true := by
  by_cases h : need.met s = true
  · rw [fill_of_met h, h]
  · cases need with
    | collection name =>
      have hfill : (collection name).fill s = s.addCollection name := if_neg h
      simp [hfill, met, addCollection, Dict.has]
    | index source full params =>
      have hfill : (index source full params).fill s = s.addIndex full params := if_neg h
      simp [hfill, met, addIndex, Dict.has]

/-- What is needed is added at the end unless it is there. -/
theorem fill_eq (s : Store) (need : Need) : need.fill s = { s with
    collections := s.collections ++ s.collections.lacking need.collection?.toList
    indexes := s.indexes ++ s.indexes.lacking need.index?.toList } := by
  cases need with
  | collection name =>
    by_cases h : s.collections.has (.text name) = true
    · simp [fill, collection?, index?, Dict.lacking, h]
    · simp [fill, collection?, index?, Dict.lacking, h, addCollection,
        Dict.put_of_not_has (eq_false_of_ne_true h)]
  | index source full params =>
    by_cases h : s.indexes.has (.text full) = true
    · simp [fill, collection?, index?, Dict.lacking, h]
    · simp [fill, collection?, index?, Dict.lacking, h, addIndex,
        Dict.put_of_not_has (eq_false_of_ne_true h)]

end Need

/-- The store with all that is needed, one need after another. -/
def filled (needs : List Need) (s : Store) : Store := needs.foldl Need.fill s

theorem filled_append (needs more : List Need) (s : Store) :
    filled (needs ++ more) s = filled more (filled needs s) := List.foldl_append

/-- **What filling needs amounts to**: what is there stays, and what is lacking follows, of each name
the first. -/
theorem filled_eq (needs : List Need) (s : Store) : filled needs s = { s with
    collections := s.collections ++ s.collections.lacking (needs.filterMap Need.collection?)
    indexes := s.indexes ++ s.indexes.lacking (needs.filterMap Need.index?) } := by
  induction needs generalizing s with
  | nil => simp [filled, Dict.lacking]
  | cons need rest ih =>
    have hsplit : ∀ {β : Type} (f : Need → Option β),
        (need :: rest).filterMap f = (f need).toList ++ rest.filterMap f := by
      intro β f
      cases hf : f need <;> simp [hf]
    have hfilled : filled (need :: rest) s = filled rest (need.fill s) := rfl
    rw [hfilled, ih, hsplit, hsplit, Dict.append_lacking_append, Dict.append_lacking_append,
      Need.fill_eq]

variable {needs : List Need} {s : Store}

/-- What a store has, it has when needs are filled. -/
theorem met_filled {need : Need} (h : need.met s = true) : need.met (filled needs s) = true := by
  rw [filled_eq]
  cases need with
  | collection name =>
    obtain ⟨docs, hdocs⟩ := Option.isSome_iff_exists.1 h
    simp [Need.met, Dict.has, Dict.get?_append, hdocs]
  | index source full params =>
    obtain ⟨found, hfound⟩ := Option.isSome_iff_exists.1 h
    simp [Need.met, Dict.has, Dict.get?_append, hfound]

/-- What can be added can be added when other needs are filled. -/
theorem Need.Possible.filled {need : Need} (h : need.Possible s) :
    need.Possible (filled needs s) := fun source hsource => met_filled (h source hsource)

theorem Need.Possible.fill {other : Need} (h : other.Possible s) (need : Need) :
    other.Possible (need.fill s) := by
  have hfilled : other.Possible (Setup.filled [need] s) := h.filled
  exact hfilled

/-- Filling needs meets each of them. -/
theorem met_filled_of_mem {need : Need} (h : need ∈ needs) : need.met (filled needs s) = true := by
  obtain ⟨before, after, rfl⟩ := List.append_of_mem h
  rw [filled_append]
  exact met_filled (s := need.fill (filled before s)) (need.met_fill _)

/-- Needs that are met change nothing. -/
theorem filled_of_met (h : ∀ need ∈ needs, need.met s = true) : filled needs s = s := by
  induction needs with
  | nil => rfl
  | cons need rest ih =>
    obtain ⟨hneed, hrest⟩ := List.forall_mem_cons.1 h
    have hfilled : filled (need :: rest) s = filled rest (need.fill s) := rfl
    rw [hfilled, Need.fill_of_met hneed, ih hrest]

/-- **Filling needs starts anywhere**: where the first ones are filled already, filling all of them
comes to the same store. -/
theorem filled_filled_of_initial {first : List Need} (h : first <+: needs) :
    filled needs (filled first s) = filled needs s := by
  obtain ⟨rest, rfl⟩ := h
  rw [filled_append, filled_of_met fun need hneed => met_filled_of_mem hneed, filled_append]

end Setup

end DocMapper
