import DocMapper.Proofs.Model.Acts
import DocMapper.Proofs.Model.UniqueRuns
import DocMapper.Proofs.Store.Lookups
import DocMapper.Proofs.Store.Moves
import DocMapper.Proofs.Setup.Provisioning
import Mathlib.Data.List.Induction
/-!
# Ids and times over whole runs

Models are set up over an empty store and go to work, in any order (`Model.Deed`); every deed may fail
or end midway. What happens to the store on the way is a list of moves, its annals
(`Model.Annals`).

Ids and times are never given out again over a whole run (`Model.ids_and_times`): a document is
created at an empty place under an id that no document had before, every write is later than all
before it, and no two documents of the store have the same time. What an act gives out besides is
bounded by what it comes to, as long as its arguments are passive; a query among them may write
whatever the act itself does (`Model.assigning_samples`).
-/

namespace DocMapper.Model

open Store Action

/-! ## Deeds -/

/-- Where a model is at work: with an executor or without one, and with its own log, whose metadata
is a dictionary. -/
structure Workplace where
  bound : Bool
  logging : Logging
  metadata : ∃ entries, logging.log.base = .dict entries

/-- The desk of a model over an executor. -/
def Workplace.desk (place : Workplace) (memory : Memory) : Desk Memory where
  remote := memory
  bound := place.bound
  logging := place.logging

theorem Workplace.ready (place : Workplace) (memory : Memory) (h : place.bound = true) :
    (place.desk memory).Ready := ⟨h, place.metadata⟩

/-- Something that is done over an executor: models are set up, or one of them acts. -/
inductive Deed
  | setUp (logging : Logging) (members : List Attached) (echo create : Bool)
  | act (m : Model) (place : Workplace) (act : Act)

/-- What a deed comes to, and what it leaves the executor with. -/
def Deed.perform : Deed → Memory → Except Fault (List Document) × Memory
  | setUp logging members echo create, memory =>
    let (out, state) := (Setup.run Memory.executor echo create).perform
      { remote := memory, logging := logging, members := members }
    (out.map fun _ => [], state.remote)
  | act m place a, memory =>
    let (out, desk) := (a.op m).perform (place.desk memory)
    (out, desk.remote)

/-- The executor after some deeds, one after another, from an empty store on. -/
def after (deeds : List Deed) : Memory := deeds.foldl (fun memory deed => (deed.perform memory).2) {}

/-- What happens to the store over some deeds, deed by deed. -/
inductive Annals : List Deed → List Move → Prop
  | nil : Annals [] []
  | snoc {deeds : List Deed} {history later : List Move} {deed : Deed} : Annals deeds history →
    Moves (after deeds).store later (after (deeds ++ [deed])).store →
    Annals (deeds ++ [deed]) (history ++ later)

variable {deeds : List Deed} {history : List Move} {P : Store → Prop}

/-- **A deed keeps what every query keeps**, however it ends. -/
theorem Deed.keeps (h : ∀ q, KeptByQuery P q) (deed : Deed) {memory : Memory} (hs : P memory.store) :
    P (deed.perform memory).2.store := by
  cases deed with
  | setUp logging members echo create =>
    refine Setup.keeps_run_of_queries h ?_
    exact hs
  | act m place a => exact a.keeps_op (fun q _ => h q) (place.desk memory) hs

theorem after_append (deeds : List Deed) (deed : Deed) :
    after (deeds ++ [deed]) = (deed.perform (after deeds)).2 := by
  simp [after]

/-- Every deed makes some moves. -/
theorem exists_moves (deeds : List Deed) (deed : Deed) : ∃ later,
    Moves (after deeds).store later (after (deeds ++ [deed])).store := by
  rw [after_append]
  exact deed.keeps (P := Reaches (after deeds).store)
    (keptByWrites_reaches _).keptByQuery (Reaches.refl _)

/-- **Every run has its annals.** -/
theorem exists_annals (deeds : List Deed) : ∃ history, Annals deeds history := by
  induction deeds using List.reverseRecOn with
  | nil => exact ⟨[], .nil⟩
  | append_singleton deeds deed ih =>
    obtain ⟨history, hhistory⟩ := ih
    obtain ⟨later, hlater⟩ := exists_moves deeds deed
    exact ⟨_, hhistory.snoc hlater⟩

/-- The annals of a run are a history of its store. -/
theorem Annals.moves (h : Annals deeds history) : Moves {} history (after deeds).store := by
  induction h with
  | nil => exact .nil
  | snoc _ hlater ih => exact ih.append hlater

/-! ## Whole runs -/

/-- How ids and times were given out on the way to a store. -/
structure Orderly (history : List Move) (s : Store) : Prop where
  /-- the counters count what was given out -/
  counted : Advanced {} (newIds history).length (newTimes history).length s
  /-- ids are unique in each collection -/
  ids : ∀ c, (s.documents c).values.Pairwise fun a b => a.ref.id ≠ b.ref.id
  /-- no two documents have the same time -/
  times : ∀ {c i c' i' doc doc'}, s.find c i = some doc → s.find c' i' = some doc' →
    doc.ts = doc'.ts → (c, i) = (c', i')
  /-- a document is created at an empty place, and under an id that no document had before -/
  created : ∀ before c doc later, history = before ++ .created c doc :: later →
    (∃ t, Moves {} before t ∧ Moves t (.created c doc :: later) s ∧ t.find c doc.ref.id = none) ∧
    ∀ move ∈ before, ∀ given ∈ move.given?, given.2.ref.id ≠ doc.ref.id
  /-- every write is later than all before it -/
  later : ∀ before move rest, history = before ++ move :: rest → ∀ given ∈ move.given?,
    ∀ time ∈ newTimes before, time < given.2.ts

theorem orderly_of_moves {s : Store} (h : Moves {} history s) : Orderly history s where
  counted := h.advanced
  ids c := h.sound.filed.pairwise_id_ne c
  times hfind hfind' hts := h.sound.place_eq_of_ts_eq hfind hfind' hts
  created before c doc later hhistory := by
    subst hhistory
    obtain ⟨t, hbefore, hlater⟩ := h.exists_between
    refine ⟨⟨t, hbefore, hlater, ?_⟩, fun move hmove given hgiven => ?_⟩
    · have hlater : Moves t ([.created c doc] ++ later) _ := hlater
      obtain ⟨u, hfirst, -⟩ := hlater.exists_between
      cases hfirst.of_singleton with
      | created => exact hbefore.sound.find_freshId c
    · have hids := (List.pairwise_append.1 h.sound.ids).2.2
      exact hids move hmove _ List.mem_cons_self given hgiven _ rfl
  later before move rest hhistory given hgiven time htime := by
    subst hhistory
    obtain ⟨earlier, hearlier, htime⟩ := List.mem_filterMap.1 htime
    have htimes := (List.pairwise_append.1 h.sound.times).2.2
    exact htimes earlier hearlier move List.mem_cons_self time htime _
      (Option.mem_map_of_mem _ hgiven)

/-- **Ids and times are never given out again.** Over every run of deeds from an empty store, ids are
unique in each collection, no two documents have the same time, a document is created at an empty
place under an id that no document had before, and every write is later than all before it. After
every run, an act of passive arguments gives out what its kind says and no more. -/
theorem ids_and_times (deeds : List Deed) :
    (∃ history, Annals deeds history) ∧
    (∀ history, Annals deeds history → Orderly history (after deeds).store) ∧
    ∀ (m : Model) (place : Workplace) (act : Act), act.IsPassive →
      act.Spent m place.logging.ambient.now (after deeds).store
        ((Deed.act m place act).perform (after deeds)).1
        (after (deeds ++ [.act m place act])).store := by
  refine ⟨exists_annals deeds, fun history h => orderly_of_moves h.moves, ?_⟩
  intro m place act hact
  rw [after_append]
  have hspent : act.Spent m _ _ ((act.op m).perform (place.desk (after deeds))).1 _ :=
    Act.spent_op (place.ready (after deeds)) hact
  exact hspent

/-! ## Notes -/

/-- Where a model is at work with an executor and its first log. -/
def firstPlace (m : Model) : Workplace := ⟨true, ⟨m.newLog, {}⟩, ⟨_, rfl⟩⟩

/-- An act of the model of notes. -/
def noteDeed (act : Act) : Deed := .act (textNotes none) (firstPlace (textNotes none)) act

/-- The model of notes is set up. -/
def provisioned : List Deed :=
  [.setUp ⟨Setup.newLog false, {}⟩ [{ model := textNotes none, log := (textNotes none).newLog }]
    false true]

/-- Two notes are created. -/
def stocked : List Deed :=
  provisioned ++ [noteDeed (.create (noteOf "a") .null), noteDeed (.create (noteOf "b") .null)]

/-- The second note cannot be given the text of the first, and a third one comes after the first was
removed. -/
def noteDeeds : List Deed :=
  stocked ++ [noteDeed (.write .update (.text "102") (noteOf "a")), noteDeed (.delete (.text "101")),
    noteDeed (.create (noteOf "c") .null)]

/-- An update of the second note. -/
def lateUpdate : Act := .write .update (.text "102") (noteOf "d")

theorem ids_and_times_sample :
    (∃ history, Annals noteDeeds history ∧ Orderly history (after noteDeeds).store) ∧
    (lateUpdate.IsPassive ∧ lateUpdate.Spent (textNotes none)
        (firstPlace (textNotes none)).logging.ambient.now (after noteDeeds).store
        ((Deed.act (textNotes none) (firstPlace (textNotes none)) lateUpdate).perform
          (after noteDeeds)).1
        (after (noteDeeds ++ [.act (textNotes none) (firstPlace (textNotes none)) lateUpdate])).store) ∧
    ((after noteDeeds).store.find "notes" "103").isSome = true := by
  obtain ⟨⟨history, hannals⟩, horderly, hspent⟩ := ids_and_times noteDeeds
  have hpassive : lateUpdate.IsPassive := by
    simp [Act.IsPassive, Act.compiled, lateUpdate, noteOf]
  exact ⟨⟨history, hannals, horderly history hannals⟩, ⟨hpassive,
    hspent (textNotes none) (firstPlace (textNotes none)) lateUpdate hpassive⟩, by decide +kernel⟩

/-- An update of a note that is not there, with data that creates a note. -/
def creatingUpdate : Deed :=
  noteDeed (.write .update (.text "7") (.dict [(.text "text", noteCreation)]))

/-- An update of the first note with a number in place of a text. -/
def unfitUpdate : Deed := noteDeed (.write .update (.text "101") (.dict [(.text "text", .int 5)]))

/-- A write that is skipped gives out an id and a time if its data creates a document, and a write
that fails gives out a time if it has written what does not fit the schema. -/
theorem assigning_samples :
    ((creatingUpdate.perform (after provisioned)).1.toOption.map List.length = some 0 ∧
      ¬ Advanced (after provisioned).store 0 0 (after (provisioned ++ [creatingUpdate])).store) ∧
    ((unfitUpdate.perform (after stocked)).1.toOption.isNone = true ∧
      ¬ Advanced (after stocked).store 0 0 (after (stocked ++ [unfitUpdate])).store) := by
  refine ⟨⟨by decide +kernel, fun h => ?_⟩, by decide +kernel, fun h => ?_⟩
  · exact absurd h.lastId (by decide +kernel)
  · exact absurd h.clock (by decide +kernel)

end DocMapper.Model
