import DocMapper.Proofs.Store.AnyQuery
import Mathlib.Data.List.Pairwise
/-!
# The history of a store

Whatever happens to a store happens by one move after another (`Store.Moved`): a document is created
or written, a document is taken away, or the store is extended by a collection or an index. Every
query makes some moves and nothing else (`Store.keptByWrites_moves`).

Ids and times come from counters that only grow. So along a history that begins with an empty store
no id is given out that a document ever had, each write is later than all before it, and no two
documents of the store have the same time (`Store.Moves.sound`). And a document stays as it is until a
move concerns its place (`Store.Moves.find_eq`).
-/

namespace DocMapper.Store

open Model

/-- One thing that happens to a store. -/
inductive Move
  /-- a document comes to a collection under a new id -/
  | created (c : String) (doc : StoredDocument)
  /-- a document of a collection is given new data -/
  | written (c : String) (doc : StoredDocument)
  /-- a document is taken away -/
  | taken (c i : String)
  /-- a collection or an index is added -/
  | extended

namespace Move

/-- The document that a move leaves in the store, with its collection. -/
def given? : Move → Option (String × StoredDocument)
  | created c doc | written c doc => some (c, doc)
  | taken .. | extended => none

/-- The id that a move gives out. -/
def newId? : Move → Option String
  | created _ doc => some doc.ref.id
  | written .. | taken .. | extended => none

/-- The time that a move gives out. -/
def newTime? (move : Move) : Option Int := move.given?.map fun given => given.2.ts

end Move

/-- A move makes one store of another. -/
inductive Moved : Move → Store → Store → Prop
  | created {s : Store} {c : String} {data ttl : Value} (has : s.collections.has c = true)
      (unique : s.checkUnique c data none = .ok ()) :
      Moved (.created c (s.fresh c data ttl)) s (s.insert c data ttl).1
  | written {s : Store} {c i : String} {doc : StoredDocument} {data : Value}
      (find : s.find c i = some doc) (unique : s.checkUnique c data (some i) = .ok ()) :
      Moved (.written c (s.rewritten doc data)) s (s.putRewritten c i doc data)
  | taken {s : Store} {c i : String} {doc : StoredDocument} (find : s.find c i = some doc) :
      Moved (.taken c i) s (s.erase c i)
  | collection {s : Store} {key : Key} (has : s.collections.has key = false) :
      Moved .extended s { s with collections := s.collections.put key [] }
  | index {s : Store} {key : Key} {entries : Dict Value} (has : s.indexes.has key = false) :
      Moved .extended s { s with indexes := s.indexes.put key entries }

/-- Some moves, one after another, make one store of another. -/
inductive Moves (s : Store) : List Move → Store → Prop
  | nil : Moves s [] s
  | snoc {history : List Move} {move : Move} {t u : Store} : Moves s history t → Moved move t u →
    Moves s (history ++ [move]) u

variable {s t u : Store} {history later : List Move} {move : Move}

theorem Moves.append (h : Moves s history t) (h' : Moves t later u) :
    Moves s (history ++ later) u := by
  induction h' with
  | nil => rwa [List.append_nil]
  | snoc _ hmove ih =>
    rw [← List.append_assoc]
    exact ih.snoc hmove

/-- A history passes through a store after each of its parts. -/
theorem Moves.exists_between (h : Moves s (history ++ later) u) :
    ∃ t, Moves s history t ∧ Moves t later u := by
  generalize hall : history ++ later = all at h
  induction h generalizing later with
  | nil =>
    obtain ⟨rfl, rfl⟩ := List.append_eq_nil_iff.1 hall
    exact ⟨s, .nil, .nil⟩
  | @snoc before move t u hbefore hmove ih =>
    rcases List.eq_nil_or_concat later with rfl | ⟨rest, last, rfl⟩
    · rw [List.append_nil] at hall
      subst hall
      exact ⟨u, hbefore.snoc hmove, .nil⟩
    · rw [List.concat_eq_append, ← List.append_assoc] at hall
      obtain ⟨hrest, hlast⟩ := List.append_inj' hall rfl
      obtain ⟨between, hfirst, hsecond⟩ := ih hrest
      obtain rfl := (List.cons.inj hlast).1
      rw [List.concat_eq_append]
      exact ⟨between, hfirst, hsecond.snoc hmove⟩

theorem Moves.eq_of_nil (h : Moves s [] t) : s = t := by
  generalize hall : [] = all at h
  cases h with
  | nil => rfl
  | snoc => simp at hall

theorem Moves.of_singleton (h : Moves s [move] t) : Moved move s t := by
  generalize hall : [move] = all at h
  cases h with
  | nil => cases hall
  | snoc hbefore hmove =>
    obtain ⟨rfl, hlast⟩ := List.append_inj' (hall.symm.trans (List.nil_append _).symm) rfl
    cases hlast
    exact hbefore.eq_of_nil ▸ hmove

/-! ## Counting -/

/-- The ids that moves give out. -/
def newIds (history : List Move) : List String := history.filterMap Move.newId?

/-- The times that moves give out. -/
def newTimes (history : List Move) : List Int := history.filterMap Move.newTime?

/-- The counters of a store have gone on by so many ids and times. -/
structure Advanced (s : Store) (ids times : Nat) (t : Store) : Prop where
  lastId : t.lastId = s.lastId + ids
  clock : t.clock = s.clock + times

theorem Advanced.refl (s : Store) : Advanced s 0 0 s := ⟨rfl, by simp⟩

theorem Advanced.trans {ids times ids' times' : Nat} (h : Advanced s ids times t)
    (h' : Advanced t ids' times' u) : Advanced s (ids + ids') (times + times') u where
  lastId := by rw [h'.lastId, h.lastId, Nat.add_assoc]
  clock := by rw [h'.clock, h.clock, Int.natCast_add, Int.add_assoc]

theorem Advanced.after {ids times : Nat} (h : Advanced s 0 0 t) (h' : Advanced t ids times u) :
    Advanced s ids times u := by
  have hboth := h.trans h'
  rwa [Nat.zero_add, Nat.zero_add] at hboth

theorem Moved.advanced (h : Moved move s t) :
    Advanced s (newIds [move]).length (newTimes [move]).length t := by
  cases h with
  | created | written => exact ⟨rfl, rfl⟩
  | taken | collection | index => exact ⟨rfl, (Int.add_zero _).symm⟩

/-- **The counters count what moves give out.** -/
theorem Moves.advanced (h : Moves s history t) :
    Advanced s (newIds history).length (newTimes history).length t := by
  induction h with
  | nil => exact Advanced.refl s
  | snoc _ hmove ih =>
    have hboth := ih.trans hmove.advanced
    rwa [← List.length_append, ← List.length_append, newIds, newIds, newTimes, newTimes,
      ← List.filterMap_append, ← List.filterMap_append] at hboth

/-! ## Queries -/

/-- The store can be reached by some moves. -/
def Reaches (s t : Store) : Prop := ∃ history, Moves s history t

theorem Reaches.refl (s : Store) : Reaches s s := ⟨[], .nil⟩

theorem Reaches.moved (h : Reaches s t) (hmove : Moved move t u) : Reaches s u := by
  obtain ⟨history, hhistory⟩ := h
  exact ⟨_, hhistory.snoc hmove⟩

theorem Reaches.changed (h : Reaches s t) (hchange : Changed t u) : Reaches s u := by
  obtain ⟨change, hdid⟩ := hchange
  cases hdid with
  | nothing => exact h
  | wrote find unique => exact h.moved (.written find unique)
  | took find => exact h.moved (.taken find)
  | created has unique => exact h.moved (.created has unique)

/-- **Every query makes some moves** and nothing else. -/
theorem keptByWrites_reaches (s : Store) : KeptByWrites (Reaches s) :=
  KeptByWrites.of_changes (fun _ _ hchange h => h.changed hchange)
    (fun _ _ hkey h => h.moved (.collection hkey))
    (fun _ _ _ hkey h => h.moved (.index hkey))

/-! ## Ids and times -/

/-- What is true of a store with its history, from an empty store on. -/
structure Sound (history : List Move) (s : Store) : Prop where
  filed : s.Filed
  /-- what is stored is what some move left -/
  stored : ∀ {c i doc}, s.find c i = some doc → ∃ move ∈ history, move.given? = some (c, doc)
  /-- the counters are beyond all that was given out -/
  counted : ∀ move ∈ history, ∀ {c doc}, move.given? = some (c, doc) →
    doc.ts ≤ s.clock ∧ ∃ n ≤ s.lastId, doc.ref.id = toString n
  /-- an id that is given out is new -/
  ids : history.Pairwise fun a b =>
    ∀ given ∈ a.given?, ∀ i ∈ b.newId?, given.2.ref.id ≠ i
  /-- each time that is given out is later than those before it -/
  times : history.Pairwise fun a b => ∀ x ∈ a.newTime?, ∀ y ∈ b.newTime?, x < y

/-- Numbers with one text are one number. -/
theorem eq_of_toString_eq {m n : Nat} (h : toString m = toString n) : m = n := by
  rw [Nat.toString_eq_ofList_toDigits, Nat.toString_eq_ofList_toDigits] at h
  rw [← Nat.ofDigitChars_ten_toDigits (n := m), String.ofList_injective h,
    Nat.ofDigitChars_ten_toDigits]

/-- No document has an id that is still to be given out. -/
theorem Sound.ne_freshId (hs : Sound history s) (hmove : move ∈ history) {c : String}
    {doc : StoredDocument} (hgiven : move.given? = some (c, doc)) : doc.ref.id ≠ s.freshId := by
  obtain ⟨-, n, hn, hid⟩ := hs.counted move hmove hgiven
  rw [hid, freshId]
  intro heq
  have hnext := eq_of_toString_eq heq
  omega

/-- A document is found under its own id. -/
theorem Filed.id_of_find (hs : s.Filed) {c i : String} {doc : StoredDocument}
    (h : s.find c i = some doc) : doc.ref.id = i := by
  obtain ⟨k, hmem, hsame⟩ := Dict.exists_mem_of_get? h
  obtain ⟨hk, -⟩ := hs.exists_key hmem
  have hkey : k = .text doc.ref.id := hk
  rw [hkey] at hsame
  simpa using hsame

/-- **A document is created at a place that is empty.** -/
theorem Sound.find_freshId (hs : Sound history s) (c : String) : s.find c s.freshId = none := by
  cases hfind : s.find c s.freshId with
  | none => rfl
  | some doc =>
    obtain ⟨move, hmove, hgiven⟩ := hs.stored hfind
    exact absurd (hs.filed.id_of_find hfind) (hs.ne_freshId hmove hgiven)

/-- **No two documents of a store have the same time.** -/
theorem Sound.place_eq_of_ts_eq (hs : Sound history s) {c i c' i' : String}
    {doc doc' : StoredDocument} (h : s.find c i = some doc) (h' : s.find c' i' = some doc')
    (hts : doc.ts = doc'.ts) : (c, i) = (c', i') := by
  obtain ⟨move, hmove, hgiven⟩ := hs.stored h
  obtain ⟨move', hmove', hgiven'⟩ := hs.stored h'
  have hdiffer : history.Pairwise fun a b => ∀ x ∈ a.newTime?, ∀ y ∈ b.newTime?, x ≠ y :=
    hs.times.imp fun hlt x hx y hy => Int.ne_of_lt (hlt x hx y hy)
  have hsymm : Std.Symm fun a b : Move => ∀ x ∈ a.newTime?, ∀ y ∈ b.newTime?, x ≠ y :=
    ⟨fun _ _ hne x hx y hy => Ne.symm (hne y hy x hx)⟩
  by_cases hsame : move = move'
  · subst hsame
    obtain ⟨rfl, rfl⟩ := Prod.mk.inj (Option.some.inj (hgiven.symm.trans hgiven'))
    rw [← hs.filed.id_of_find h, ← hs.filed.id_of_find h']
  · refine absurd hts (hdiffer.forall hmove hmove' hsame _ ?_ _ ?_)
    · exact Option.map_eq_some_iff.2 ⟨_, hgiven, rfl⟩
    · exact Option.map_eq_some_iff.2 ⟨_, hgiven', rfl⟩

/-- What one more move has to bring. -/
theorem Sound.snoc (hs : Sound history s) (hfiled : t.Filed)
    (hfind : ∀ {c i doc}, t.find c i = some doc →
      s.find c i = some doc ∨ move.given? = some (c, doc))
    (hclock : s.clock ≤ t.clock) (hlast : s.lastId ≤ t.lastId)
    (hgiven : ∀ {c doc}, move.given? = some (c, doc) →
      s.clock < doc.ts ∧ doc.ts ≤ t.clock ∧ ∃ n ≤ t.lastId, doc.ref.id = toString n)
    (hnew : ∀ i ∈ move.newId?, i = s.freshId) : Sound (history ++ [move]) t where
  filed := hfiled
  stored hdoc := by
    rcases hfind hdoc with hold | hmove
    · obtain ⟨before, hbefore, hwas⟩ := hs.stored hold
      exact ⟨before, List.mem_append_left _ hbefore, hwas⟩
    · exact ⟨move, List.mem_append_right _ (List.mem_singleton.2 rfl), hmove⟩
  counted := by
    intro some hmem c doc hwas
    rcases List.mem_append.1 hmem with hbefore | hlastMove
    · obtain ⟨hts, n, hn, hid⟩ := hs.counted some hbefore hwas
      exact ⟨Int.le_trans hts hclock, n, Nat.le_trans hn hlast, hid⟩
    · obtain rfl := List.mem_singleton.1 hlastMove
      exact (hgiven hwas).2
  ids := by
    refine List.pairwise_append.2 ⟨hs.ids, List.pairwise_singleton _ _, ?_⟩
    rintro before hbefore _ hlastMove given hwas i hi
    obtain rfl := List.mem_singleton.1 hlastMove
    rw [hnew i hi]
    exact hs.ne_freshId hbefore hwas
  times := by
    refine List.pairwise_append.2 ⟨hs.times, List.pairwise_singleton _ _, ?_⟩
    rintro before hbefore _ hlastMove x hx y hy
    obtain rfl := List.mem_singleton.1 hlastMove
    obtain ⟨was, hwas, rfl⟩ := Option.map_eq_some_iff.1 hx
    obtain ⟨is, his, rfl⟩ := Option.map_eq_some_iff.1 hy
    have hold := (hs.counted before hbefore hwas).1
    have hnow := (hgiven his).1
    omega

/-- A history stays sound with one more move. -/
theorem Sound.moved (hs : Sound history s) (h : Moved move s t) : Sound (history ++ [move]) t := by
  have hclock : s.clock ≤ s.clock + 1 := by omega
  cases h with
  | @created _ c data ttl has unique =>
    refine hs.snoc ((@Change.Did.created s c data ttl has unique).filed hs.filed) ?_ hclock
      (Nat.le_succ _) ?_ ?_
    · intro c' i doc hfind
      by_cases heq : (c', i) = (c, s.freshId)
      · obtain ⟨rfl, rfl⟩ := Prod.mk.inj heq
        rw [find_insert_self] at hfind
        exact Or.inr (congrArg some (Prod.ext rfl (Option.some.inj hfind)))
      · rw [find_insert_of_ne s data ttl heq] at hfind
        exact Or.inl hfind
    · rintro c' doc ⟨⟩
      exact ⟨Int.lt_succ _, Int.le_refl _, _, Nat.le_refl _, rfl⟩
    · rintro i ⟨⟩
      rfl
  | @written _ c i old data find unique =>
    have hdid : (Change.write .replace c i data).Did s (s.putRewritten c i old data) :=
      .wrote find unique
    obtain ⟨before, hbefore, hwas⟩ := hs.stored find
    obtain ⟨-, n, hn, hid⟩ := hs.counted before hbefore hwas
    refine hs.snoc (hdid.filed hs.filed) ?_ hclock (Nat.le_refl _) ?_
      (by rintro _ ⟨⟩)
    · intro c' i' doc hfind
      by_cases heq : (c', i') = (c, i)
      · obtain ⟨rfl, rfl⟩ := Prod.mk.inj heq
        rw [find_putRewritten] at hfind
        exact Or.inr (congrArg some (Prod.ext rfl (Option.some.inj hfind)))
      · rw [(s.sameElsewhere_putRewritten c i old data).find_eq heq] at hfind
        exact Or.inl hfind
    · rintro c' doc ⟨⟩
      exact ⟨Int.lt_succ _, Int.le_refl _, n, hn, hid⟩
  | @taken _ c i old find =>
    refine hs.snoc ((Change.Did.took find).filed hs.filed) ?_ (Int.le_refl _) (Nat.le_refl _)
      (by rintro _ _ ⟨⟩) (by rintro _ ⟨⟩)
    intro c' i' doc hfind
    by_cases heq : (c', i') = (c, i)
    · obtain ⟨rfl, rfl⟩ := Prod.mk.inj heq
      rw [hs.filed.distinct.find_erase_self] at hfind
      cases hfind
    · rw [(s.sameElsewhere_erase c i).find_eq heq] at hfind
      exact Or.inl hfind
  | collection has =>
    refine hs.snoc (hs.filed.putEmpty has) ?_ (Int.le_refl _) (Nat.le_refl _)
      (by rintro _ _ ⟨⟩) (by rintro _ ⟨⟩)
    intro c i doc hfind
    rw [find, documents_putEmpty has] at hfind
    exact Or.inl hfind
  | index has =>
    exact hs.snoc ⟨⟨hs.filed.distinct.collections, hs.filed.distinct.documents⟩, hs.filed.placed⟩
      Or.inl (Int.le_refl _) (Nat.le_refl _) (by rintro _ _ ⟨⟩) (by rintro _ ⟨⟩)

/-- **Along a history from an empty store on** ids and times are never given out again. -/
theorem Moves.sound (h : Moves {} history s) : Sound history s := by
  induction h with
  | nil => exact ⟨bare_empty.filed, by simp [find, documents], by simp, .nil, .nil⟩
  | snoc _ hmove ih => exact ih.moved hmove

/-! ## Places -/

/-- A move makes, changes or takes away the document of a place. -/
def Move.Concerns (c i : String) : Move → Prop
  | created c' doc | written c' doc => (c', doc.ref.id) = (c, i)
  | taken c' i' => (c', i') = (c, i)
  | extended => False

variable {c i : String}

/-- A move leaves every place that it does not concern. -/
theorem Moved.find_eq (h : Moved move s t) (hs : s.Filed) (hmove : ¬ move.Concerns c i) :
    t.find c i = s.find c i := by
  cases h with
  | created has unique => exact find_insert_of_ne s _ _ (Ne.symm hmove)
  | @written _ c' i' doc data find unique =>
    have hplace : (c', doc.ref.id) ≠ (c, i) := hmove
    rw [hs.id_of_find find] at hplace
    exact (s.sameElsewhere_putRewritten c' i' doc data).find_eq (Ne.symm hplace)
  | @taken _ c' i' doc find => exact (s.sameElsewhere_erase c' i').find_eq (Ne.symm hmove)
  | collection has => rw [find, documents_putEmpty has, find]
  | index has => rfl

/-- **What no move concerns stays as it is.** -/
theorem Moves.find_eq (hpast : Moves {} history s) (h : Moves s later t)
    (hmoves : ∀ move ∈ later, ¬ move.Concerns c i) : t.find c i = s.find c i := by
  induction h with
  | nil => rfl
  | @snoc before move t u hbefore hmove ih =>
    have hfiled := (hpast.append hbefore).sound.filed
    rw [hmove.find_eq hfiled (hmoves move (List.mem_append_right _ List.mem_cons_self))]
    exact ih fun move hmem => hmoves move (List.mem_append_left _ hmem)

/-- Moves lead from one store to another, and none of them concerns the place. -/
def Untouched (c i : String) (s t : Store) : Prop :=
  ∃ later, Moves s later t ∧ ∀ move ∈ later, ¬ move.Concerns c i

end DocMapper.Store
