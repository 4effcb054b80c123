import DocMapper.Proofs.Model.IndexLookups
/-!
# Following pages

A page names the places where its neighbours begin and end, and a client goes from page to page by
asking for what such a place leads to (`Trail`). Pages are cut out of the same documents by position
(`Page.Shows`), so that the trail of following pages comes to the end of the documents and shows each
of them once, and the trail back from any page shows what stands before it (`Covers`).

For this an operation has to show a page wherever it is asked to (`Paginates`). It holds of a list of
the documents of a collection and of a list by an index, and following the pages of either loses and
repeats nothing (`Model.paging_covers`).
-/

namespace DocMapper

open Store
open Query (named binding)

/-! ## Pages of documents -/

/-- A place between documents as pages name it: none at the very beginning. -/
def placeAt (n : Nat) : Value := if 0 < n then .int n else .null

theorem placeAt_of_pos {n : Nat} (h : 0 < n) : placeAt n = .int n := if_pos h

theorem isPlain_placeAt (n : Nat) : (placeAt n).isPlain = true := by
  unfold placeAt
  split <;> rfl

theorem settled_placeAt (n : Nat) : (placeAt n).settled = placeAt n := by
  unfold placeAt
  split <;> rfl

namespace Page

/-- The stored documents that a page shows. -/
def stored (page : Page) : List StoredDocument := page.documents.map Document.stored

/-- The page shows the documents from one place to another, and names the places where its
neighbours begin and end, if there are any. -/
structure Shows (page : Page) (docs : List StoredDocument) (start stop : Nat) : Prop where
  stored : page.stored = (docs.drop start).take (stop - start)
  after : page.after = if stop < docs.length then .int stop else .null
  before : page.before = placeAt start

/-- Pages of one size that show documents from a place on to their end, one after another. -/
inductive Cut (docs : List StoredDocument) (n : Nat) : Nat → List Page → Prop
  | last {start : Nat} {page : Page} : docs.length ≤ start + n → page.Shows docs start (start + n) →
    Cut docs n start [page]
  | more {start : Nat} {page : Page} {rest : List Page} : start + n < docs.length →
    page.Shows docs start (start + n) → Cut docs n (start + n) rest → Cut docs n start (page :: rest)

variable {docs : List StoredDocument} {n start : Nat} {pages front back : List Page} {page : Page}

/-- Pages that documents are cut into show all of them. -/
theorem Cut.flatMap_stored (h : Cut docs n start pages) :
    pages.flatMap Page.stored = docs.drop start := by
  induction h with
  | last hstop hshows =>
    rw [List.flatMap_singleton, hshows.stored, Nat.add_sub_cancel_left,
      List.take_of_length_le (by rw [List.length_drop]; omega)]
  | more _ hshows _ ih =>
    rw [List.flatMap_cons, ih, hshows.stored, Nat.add_sub_cancel_left, ← List.drop_drop,
      List.take_append_drop]

/-- All but the last of them are full. -/
theorem Cut.length_of_mem (h : Cut docs n start pages) :
    ∀ page ∈ pages.dropLast, page.documents.length = n := by
  induction h with
  | last _ _ => simp
  | @more start page rest hstop hshows hrest ih =>
    have hne : rest ≠ [] := by
      rintro rfl
      cases hrest
    have hfull : page.documents.length = n := by
      have hlength := congrArg List.length hshows.stored
      rw [stored, List.length_map, List.length_take, List.length_drop] at hlength
      omega
    rw [List.dropLast_cons_of_ne_nil hne]
    exact List.forall_mem_cons.2 ⟨hfull, ih⟩

/-- Each of them begins where those in front of it end. -/
theorem Cut.exists_start (h : Cut docs n start pages) (hpages : pages = front ++ page :: back) :
    ∃ place, page.Shows docs place (place + n) ∧
      docs.take place = docs.take start ++ front.flatMap Page.stored := by
  induction h generalizing front with
  | @last start only _ hshows =>
    obtain ⟨rfl, hpage⟩ : front = [] ∧ only = page := by
      cases front <;> simp_all
    exact ⟨start, hpage ▸ hshows, by simp⟩
  | @more start first rest _ hshows _ ih =>
    cases front with
    | nil =>
      obtain ⟨rfl, -⟩ := List.cons.inj hpages
      exact ⟨start, hshows, by simp⟩
    | cons _ front =>
      obtain ⟨rfl, hrest⟩ := List.cons.inj hpages
      obtain ⟨place, hplace, htake⟩ := ih hrest
      refine ⟨place, hplace, ?_⟩
      rw [htake, List.flatMap_cons, ← List.append_assoc, hshows.stored, Nat.add_sub_cancel_left,
        List.take_add]

end Page

/-! ## Trails -/

/-- A client follows the places that pages name until a page names none: at each place it asks for
the page there, the asks being numbered and made at one desk after another, and goes on to the place
that this page names. No ask changes the store. -/
inductive Trail (desks : Nat → Desk Memory) (ask : Value → Op Memory Page) (next : Page → Value) :
    Nat → Value → List Page → Prop
  | done {k : Nat} : Trail desks ask next k .null []
  | step {k : Nat} {place : Value} {page : Page} {calls : List Value} {rest : List Page} :
    place ≠ .null → (desks k).Runs (ask place) (.ok page) calls (desks k).remote.store →
    Trail desks ask next (k + 1) (next page) rest → Trail desks ask next k place (page :: rest)

/-- An operation that is given a size, a place after which a page begins and one before which it
ends shows the pages of some documents. -/
structure Paginates (serves : Desk Memory → Prop) (ask : Nat → Value → Value → Op Memory Page)
    (docs : List StoredDocument) : Prop where
  onward : ∀ desk, serves desk → ∀ n start : Nat, 0 < n → ∃ page calls,
    desk.Runs (ask n (placeAt start) .null) (.ok page) calls desk.remote.store ∧
      page.Shows docs start (start + n)
  back : ∀ desk, serves desk → ∀ n stop : Nat, 0 < stop → ∃ page calls,
    desk.Runs (ask n .null (.int stop)) (.ok page) calls desk.remote.store ∧
      page.Shows docs (stop - n) stop

/-- Following pages of any size loses and repeats no document and ends. The first page and the trail
of those after it show all documents in their order, and all of these pages but the last are full.
From each of these pages the trail of those before it, which may be of another size, shows exactly
the documents in front of the page, the last of them first. -/
def Covers (serves : Desk Memory → Prop) (ask : Nat → Value → Value → Op Memory Page)
    (docs : List StoredDocument) : Prop :=
  ∀ n, 0 < n → ∀ desks : Nat → Desk Memory, (∀ k, serves (desks k)) → ∃ first rest calls,
    (desks 0).Runs (ask n .null .null) (.ok first) calls (desks 0).remote.store ∧
    Trail desks (ask n · .null) Page.after 1 first.after rest ∧
    (first :: rest).flatMap Page.stored = docs ∧
    (∀ page ∈ (first :: rest).dropLast, page.documents.length = n) ∧
    ∀ front page back, first :: rest = front ++ page :: back →
      ∀ width, 0 < width → ∀ others : Nat → Desk Memory, (∀ k, serves (others k)) → ∃ visited,
        Trail others (ask width .null ·) Page.before 0 page.before visited ∧
        visited.reverse.flatMap Page.stored = front.flatMap Page.stored

section Trails

variable {serves : Desk Memory → Prop} {ask : Nat → Value → Value → Op Memory Page}
  {docs : List StoredDocument} {n : Nat} {desks : Nat → Desk Memory}

include n

/-- From any page on the trail of the following pages cuts the rest of the documents. -/
theorem Paginates.exists_onward (hask : Paginates serves ask docs) (hn : 0 < n)
    (hdesks : ∀ k, serves (desks k)) (start : Nat) {page : Page}
    (hpage : page.Shows docs start (start + n)) (k : Nat) :
    ∃ rest, Trail desks (ask n · .null) Page.after k page.after rest ∧
      Page.Cut docs n start (page :: rest) := by
  by_cases hstop : start + n < docs.length
  · obtain ⟨next, calls, hruns, hshows⟩ := hask.onward (desks k) (hdesks k) n (start + n) hn
    obtain ⟨rest, htrail, hcut⟩ := Paginates.exists_onward hask hn hdesks (start + n) hshows (k + 1)
    have hafter : page.after = placeAt (start + n) := by
      rw [hpage.after, if_pos hstop, placeAt_of_pos (by omega)]
    rw [hafter]
    refine ⟨next :: rest, Trail.step ?_ hruns htrail, Page.Cut.more hstop hpage hcut⟩
    rw [placeAt_of_pos (by omega)]
    simp
  · refine ⟨[], ?_, Page.Cut.last (by omega) hpage⟩
    rw [hpage.after, if_neg hstop]
    exact Trail.done
termination_by docs.length - start

/-- From any place on the trail of the pages before it shows what stands in front of the place. -/
theorem Paginates.exists_back (hask : Paginates serves ask docs) (hn : 0 < n)
    (hdesks : ∀ k, serves (desks k)) (stop k : Nat) :
    ∃ visited, Trail desks (ask n .null ·) Page.before k (placeAt stop) visited ∧
      visited.reverse.flatMap Page.stored = docs.take stop := by
  by_cases hstop : 0 < stop
  · obtain ⟨page, calls, hruns, hshows⟩ := hask.back (desks k) (hdesks k) n stop hstop
    obtain ⟨visited, htrail, hvisited⟩ := Paginates.exists_back hask hn hdesks (stop - n) (k + 1)
    rw [placeAt_of_pos hstop]
    rw [← hshows.before] at htrail
    refine ⟨page :: visited, Trail.step (by simp) hruns htrail, ?_⟩
    have hsplit : stop = (stop - n) + (stop - (stop - n)) := by omega
    rw [List.reverse_cons, List.flatMap_append, hvisited, List.flatMap_singleton, hshows.stored,
      ← List.take_add, ← hsplit]
  · obtain rfl : stop = 0 := by omega
    exact ⟨[], Trail.done, by simp⟩
termination_by stop

omit n in
/-- **Following the pages of an operation that shows them loses and repeats nothing.** -/
theorem Paginates.covers (hask : Paginates serves ask docs) : Covers serves ask docs := by
  intro n hn desks hdesks
  obtain ⟨first, calls, hruns, hshows⟩ := hask.onward (desks 0) (hdesks 0) n 0 hn
  obtain ⟨rest, htrail, hcut⟩ := hask.exists_onward hn hdesks 0 hshows 1
  refine ⟨first, rest, calls, hruns, htrail, by simpa using hcut.flatMap_stored,
    hcut.length_of_mem, ?_⟩
  intro front page back hpages width hwidth others hothers
  obtain ⟨place, hplace, htake⟩ := hcut.exists_start hpages
  obtain ⟨visited, hvisited, hall⟩ := hask.exists_back hwidth hothers place 0
  refine ⟨visited, hplace.before ▸ hvisited, ?_⟩
  rw [hall, htake, List.take_zero, List.nil_append]

end Trails

/-! ## Asking for pages -/

/-- A page of some entries that begins at a place. -/
theorem Store.page_onward (entries : List Value) (n start : Nat) :
    page (.rows entries) (.int n) (placeAt start) .null =
      .ok (.dict (pageMembers (slice entries start (start + n : Nat)) entries.length (.int start)
        (.int (start + n : Nat)) start (start + n : Nat))) := by
  have hbounds : pageBounds (.int n) (placeAt start) .null =
      .ok (.int start, .int (start + n : Nat)) := by
    cases start with
    | zero => simp [placeAt, pageBounds, Value.truthy, Value.asPosition, bind, Except.bind, pure,
        Except.pure]
    | succ start => 
      rw [placeAt_of_pos (Nat.succ_pos start)]
      rfl
  exact page_eq_ok.2 ⟨_, _, _, _, hbounds, rfl, rfl, rfl⟩

/-- A page of some entries that ends at a place. -/
theorem Store.page_back (entries : List Value) (n stop : Nat) :
    page (.rows entries) (.int n) .null (.int stop) =
      .ok (.dict (pageMembers (slice entries (stop - n : Nat) stop) entries.length
        (.int (stop - n : Nat)) (.int stop) (stop - n : Nat) stop)) := by
  have hstart : max 0 ((stop : Int) - n) = (stop - n : Nat) := by omega
  have hbounds : pageBounds (.int n) .null (.int stop) =
      .ok (.int (stop - n : Nat), .int stop) := by
    rw [← hstart]
    rfl
  exact page_eq_ok.2 ⟨_, _, _, _, hbounds, rfl, rfl, rfl⟩

section Members

variable {data : List Value} {count start stop : Nat}

theorem truthy_natCast {n : Nat} (h : 0 < n) : (Value.int n).truthy = true := by
  have hne : (n : Int) ≠ 0 := by omega
  simpa [Value.truthy] using hne

/-- The place where the next page begins. -/
theorem Store.lookup_after (hstop : 0 < stop) :
    Model.orNull (Value.lookup (pageMembers data count (.int start) (.int stop) start stop)
      "after") = if stop < count then .int stop else .null := by
  have htruthy := truthy_natCast hstop
  by_cases hlast : stop < count
  all_goals by_cases hfirst : 0 < start
  all_goals simp [pageMembers, Value.lookup, Dict.get?, hlast, hfirst, Model.orNull, htruthy]

/-- The place where the page before ends. -/
theorem Store.lookup_before :
    Model.orNull (Value.lookup (pageMembers data count (.int start) (.int stop) start stop)
      "before") = placeAt start := by
  by_cases hlast : stop < count
  all_goals by_cases hfirst : 0 < start
  all_goals simp [pageMembers, Value.lookup, Dict.get?, hlast, hfirst, Model.orNull, placeAt,
    truthy_natCast]

end Members

namespace Model

variable {m : Model} {s : Store} {docs : List StoredDocument} {desk : Desk Memory}

/-- A desk that serves the pages of some documents: it has their store, and they all match the
schema at its time. -/
structure Serves (m : Model) (s : Store) (docs : List StoredDocument) (desk : Desk Memory) :
    Prop where
  ready : desk.Ready
  store : desk.remote.store = s
  opens : ∀ doc ∈ docs, ∃ opened, m.opening desk.logging.ambient.now doc = .ok opened

/-- The page of the documents from one place to another is opened and shows them. -/
theorem exists_answeredPage {now : Int}
    (hopens : ∀ doc ∈ docs, ∃ opened, m.opening now doc = .ok opened) (operation target : Value)
    (start : Nat) {stop : Nat} (hstop : 0 < stop) :
    ∃ page, m.answeredPage now operation target (.ok (.dict (pageMembers
        (slice (docs.map fun doc => .dict doc.members) start stop)
        (docs.map fun doc => Value.dict doc.members).length (.int start) (.int stop) start stop))) =
      .ok page ∧ page.Shows docs start stop := by
  obtain ⟨opened, hopened⟩ := exists_forall₂ fun doc (hdoc : doc ∈ slice docs start stop) =>
    hopens doc (List.mem_of_mem_drop (List.mem_of_mem_take hdoc))
  have hstored : opened.map Document.stored = slice docs start stop := by
    rw [← List.forall₂_eq_eq_eq, List.forall₂_map_left_iff]
    refine hopened.flip.imp fun doc stored hopening => ?_
    obtain ⟨data, -, rfl⟩ := Except.map_eq_ok.1 hopening
    rfl
  rw [slice_map, List.length_map, answeredPage, m.buildPage_of_data now rfl,
    Except.mapM_eq_ok.2 hopened, lookup_after hstop, lookup_before]
  exact ⟨_, rfl, hstored.trans (slice_natCast ..), rfl, rfl⟩

/-- An operation that opens the page of some documents that it is asked for shows their pages. -/
theorem paginates_of_runs {ask : Nat → Value → Value → Op Memory Page} (operation target : Value)
    (h : ∀ desk, m.Serves s docs desk → ∀ (n : Nat) (after before : Value), after.isPlain = true →
      before.isPlain = true → ∃ calls, desk.Runs (ask n after before)
        (m.answeredPage desk.logging.ambient.now operation target
          (page (rowsOf docs) (.int n) after.settled before.settled)) calls s) :
    Paginates (m.Serves s docs) ask docs := by
  constructor
  · intro desk hserves n start hn
    obtain ⟨shown, hanswered, hshows⟩ := exists_answeredPage hserves.opens operation target
      start (Nat.lt_add_left start hn)
    obtain ⟨calls, hruns⟩ := h desk hserves n (placeAt start) .null (isPlain_placeAt start) rfl
    have hnull : Value.null.settled = .null := rfl
    rw [settled_placeAt, hnull, rowsOf, page_onward, hanswered, ← hserves.store] at hruns
    exact ⟨shown, calls, hruns, hshows⟩
  · intro desk hserves n stop hstop
    obtain ⟨shown, hanswered, hshows⟩ := exists_answeredPage hserves.opens operation target
      (stop - n) hstop
    obtain ⟨calls, hruns⟩ := h desk hserves n .null (.int stop) rfl rfl
    have hnull : Value.null.settled = .null := rfl
    have hplace : (Value.int stop).settled = .int stop := rfl
    rw [hnull, hplace, rowsOf, page_back, hanswered, ← hserves.store] at hruns
    exact ⟨shown, calls, hruns, hshows⟩

/-- A list of the documents of a collection shows their pages. -/
theorem paginates_list (m : Model) (hs : s.Filed) :
    Paginates (m.Serves s (documentsOf s m.name))
      (fun n after before => m.list Memory.executor (.int n) after before)
      (documentsOf s m.name) := by
  refine paginates_of_runs "list" (.text m.name) fun desk hserves n after before hafter hbefore => ?_
  obtain ⟨hready, rfl, -⟩ := hserves
  exact ⟨_, runs_list m hready hs rfl hafter hbefore⟩

/-- A list by an index shows the pages of what the index lists. -/
theorem exists_paginates_listByIndex {name : Value} {l : IndexLayout} (hs : s.Filed)
    (hprovides : m.Provides s name) (hl : m.indexes.layout name m.name = .ok l)
    {given : Value} {terms wanted : List Value} (hgiven : given.items = .ok terms)
    (hplain : ∀ v ∈ terms, v.isPlain = true)
    (hwanted : sought l (terms.map Value.settled) = .ok wanted)
    (hsort : l.CanSort (s.having l wanted)) {options : Nat → Value → Value → Value}
    (hoptions : ∀ n after before, PageRequest.ofOptions (options n after before) =
      .ok ⟨n, after, before⟩) :
    ∃ docs, s.Listed l wanted docs ∧ Paginates (m.Serves s docs)
      (fun n after before => m.listByIndex Memory.executor name given (options n after before))
      docs := by
  obtain ⟨matched, docs, hmatching, hsend, hmatched, hlisted⟩ :=
    matching_wanted hs hprovides hl hplain hwanted hsort
  have hfetch : ∀ doc ∈ docs, s.fetch (.ref doc.ref) = .ok (.dict doc.members) := by
    intro doc hdoc
    obtain ⟨e, he, rfl⟩ := List.mem_map.1 (List.mem_filter.1 (hlisted.perm.mem_iff.1 hdoc)).1
    exact hs.fetch he
  refine ⟨docs, hlisted, paginates_of_runs "list_by_index" name
    fun desk hserves n after before hafter hbefore => ?_⟩
  obtain ⟨q, hruns⟩ := runs_listByIndex hl hmatching hsend hmatched hfetch hserves.ready
    hserves.store hgiven (hoptions n after before) hafter hbefore
  exact ⟨_, hruns⟩

/-! ## Counting -/

/-- The count of the first page of some entries leads to their number, as far as its size goes. -/
theorem exists_count_page (entries : List Value) (bound : Nat) : ∃ first counted,
    page (.rows entries) (.int bound) .null .null = .ok first ∧
      Store.count first = .ok counted ∧
      select? counted [.text "data", .int 0] = some (.int (min bound entries.length : Nat)) := by
  have hlength : (slice entries (0 : Nat) (0 + bound : Nat)).length = min bound entries.length := by
    rw [slice_natCast, List.length_take, List.drop_zero, Nat.zero_add, Nat.sub_zero]
  have hcount : ∀ (data : List Value) (start stop : Value) (first last : Int),
      Store.count (.dict (pageMembers data entries.length start stop first last)) = .ok (.dict
        (Dict.put (pageMembers data entries.length start stop first last) "data"
          (.list [.int data.length]))) := fun _ _ _ _ _ => rfl
  refine ⟨_, _, page_onward entries bound 0, hcount _ _ _ _ _, ?_⟩
  rw [hlength]
  rfl

/-- **The query for the number of documents** comes to it, as far as its bound goes. -/
theorem countQuery_spec (m : Model) (s : Store) (bound : Nat) :
    (m.countQuery (.int bound)).Sendable ∧
      (evaluate (.query (m.countQuery (.int bound)))).perform s =
        (.ok (.int (min bound (documentsOf s m.name).length : Nat)), s) := by
  have hbindings : m.countQuery (.int bound) = .letIn ([(.text "max_docs", .int bound),
      (.text "result", .query (.count (.query (.page (.query (.documents (.query m.collection)))
        (named "max_docs") .null .null))))] ++
      [(.text "counted", .query (.select [.text "data", .int 0] (named "result") none))])
      (named "counted") := by
    simp [countQuery, binding, Dict.ofFields, Dict.ofEntries, Dict.putAll, Dict.put]
  rw [hbindings]
  constructor
  · have hset : (Value.query (.documents (.query m.collection))).Sendable := by simp [collection]
    have hpage : (Query.page (.query (.documents (.query m.collection))) (named "max_docs") .null
        .null).Sendable :=
      .page hset (Query.sendable_named "max_docs") (.plain rfl) (.plain rfl)
    have hbound : (Value.int bound).Sendable := .plain rfl
    have hselect : (Query.select [.text "data", .int 0] (named "result") none).Sendable :=
      .select rfl (Query.sendable_named "result")
    simp [hbound, hpage, hselect]
  · obtain ⟨first, counted, hfirst, hcounted, hselect⟩ :=
      exists_count_page ((documentsOf s m.name).map fun doc => .ref doc.ref) bound
    rw [List.length_map] at hselect
    have hdocuments : Yields (applyClosure depthBound) (Dict.put [] "max_docs" (.int bound)) s
        (.query (.documents (.query m.collection)))
        (.ok (.rows ((documentsOf s m.name).map fun doc => .ref doc.ref))) s :=
      Yields.documents (Yields.collection m.name none)
    have hpaged := Yields.paged hdocuments (Yields.var (Dict.get?_put_self _ _ _)) (by simp [named])
      Yields.null (fun _ => rfl) Yields.null fun _ => rfl
    rw [hfirst] at hpaged
    have hresult := Yields.count hpaged
    rw [hcounted] at hresult
    exact perform_evaluate (Yields.letIn_last [_, _]
      (fun h => Binds.cons (Yields.plain rfl) (Binds.cons hresult h))
      (Yields.select (Yields.var (Dict.get?_put_self _ _ _)) hselect))

/-- **The number of documents**, as far as a bound goes. -/
theorem runs_count (m : Model) (h : desk.Ready) (bound : Nat) :
    desk.Runs (m.count Memory.executor (.int bound))
      (.ok (.int (min bound (documentsOf desk.remote.store m.name).length : Nat)))
      [.query (m.countQuery (.int bound))] desk.remote.store := by
  obtain ⟨hsend, heval⟩ := countQuery_spec m desk.remote.store bound
  exact runs_run m h "count" (.text m.name) hsend heval

/-! ## Following pages -/

/-- **Following pages loses and repeats nothing and ends.** In a store that does not change, the
pages of a collection show all of its documents, each once and in their order, whatever the size of
the pages, and the pages back from any of them show what stands in front of it. So do the pages of
what an index lists for the terms that it is asked for. The number of documents is what counting
comes to, as far as its bound goes.

The documents that are shown have to match the schema at the time of each ask, the terms to be plain,
and the index to be able to tell which of two of its values comes first. -/
theorem paging_covers (m : Model) (hs : s.Filed) :
    (Covers (m.Serves s (documentsOf s m.name))
        (fun n after before => m.list Memory.executor (.int n) after before)
        (documentsOf s m.name) ∧
      (documentsOf s m.name).Pairwise fun a b => a.ref.id ≠ b.ref.id) ∧
    (∀ (name : Value) (l : IndexLayout) (given : Value) (terms wanted : List Value)
        (options : Nat → Value → Value → Value), m.Provides s name →
      m.indexes.layout name m.name = .ok l → given.items = .ok terms →
      (∀ v ∈ terms, v.isPlain = true) → sought l (terms.map Value.settled) = .ok wanted →
      l.CanSort (s.having l wanted) →
      (∀ n after before, PageRequest.ofOptions (options n after before) =
        .ok ⟨n, after, before⟩) →
      ∃ docs, s.Listed l wanted docs ∧ Covers (m.Serves s docs)
        (fun n after before => m.listByIndex Memory.executor name given (options n after before))
        docs) ∧
    ∀ desk : Desk Memory, desk.Ready → desk.remote.store = s → ∀ bound : Nat, ∃ calls,
      desk.Runs (m.count Memory.executor (.int bound))
        (.ok (.int (min bound (documentsOf s m.name).length : Nat))) calls s := by
  refine ⟨⟨(paginates_list m hs).covers, hs.pairwise_id_ne m.name⟩, ?_, ?_⟩
  · intro name l given terms wanted options hprovides hl hgiven hplain hwanted hsort hoptions
    obtain ⟨docs, hlisted, hpaginates⟩ :=
      exists_paginates_listByIndex hs hprovides hl hgiven hplain hwanted hsort hoptions
    exact ⟨docs, hlisted, hpaginates.covers⟩
  · rintro desk hready rfl bound
    exact ⟨_, runs_count m hready bound⟩

/-- Documents that are seen to match the schema, one after another, can be opened. -/
theorem exists_opening_of_all (m : Model) (now : Int) (docs : List StoredDocument)
    (h : (docs.all fun doc => (m.opening now doc).toBool) = true) :
    ∀ doc ∈ docs, ∃ opened, m.opening now doc = .ok opened := by
  intro doc hdoc
  have htoBool := List.all_eq_true.1 h doc hdoc
  cases hopening : m.opening now doc with
  | error fault =>
    rw [hopening] at htoBool
    cases htoBool
  | ok opened => exact ⟨opened, rfl⟩

theorem paging_covers_books :
    (bookModel.Serves bookStore (documentsOf bookStore "books") (bookModel.deskOver bookStore) ∧
      Covers (bookModel.Serves bookStore (documentsOf bookStore "books"))
        (fun n after before => bookModel.list Memory.executor (.int n) after before)
        (documentsOf bookStore "books")) ∧
    (∃ docs, bookStore.Listed shelfLayout shelfTerms docs ∧
      bookModel.Serves bookStore docs (bookModel.deskOver bookStore) ∧
      Covers (bookModel.Serves bookStore docs)
        (fun n after before => bookModel.listByIndex Memory.executor "by_shelf" (.list shelfTerms)
          (PageRequest.mk n after before).toValue) docs) ∧
    (∃ calls, (bookModel.deskOver bookStore).Runs (bookModel.count Memory.executor (.int 3))
      (.ok (.int 3)) calls bookStore) ∧
    (documentsOf bookStore "books").map (fun doc => doc.ref.id) =
      ["101", "102", "103", "104", "105"] := by
  obtain ⟨hfiled, hprovides⟩ := bookStore_spec
  have hready := bookModel.deskOver_ready bookStore
  have hstore : (bookModel.deskOver bookStore).remote.store = bookStore :=
    bookModel.deskOver_store bookStore
  have hopens := exists_opening_of_all bookModel (bookModel.deskOver bookStore).logging.ambient.now
    (documentsOf bookStore "books") (by decide +kernel)
  have hsort : shelfLayout.CanSort (bookStore.having shelfLayout shelfTerms) :=
    IndexLayout.canSort_of_leaves (by decide +kernel)
  obtain ⟨⟨hlist, -⟩, hindex, hcount⟩ := paging_covers bookModel hfiled
  obtain ⟨docs, hlisted, hcovers⟩ := hindex "by_shelf" shelfLayout (.list shelfTerms) shelfTerms
    shelfTerms (fun n after before => (PageRequest.mk n after before).toValue) hprovides rfl rfl
    (by simp [shelfTerms, Value.isPlain]) rfl hsort fun n after before => by
      simp [PageRequest.ofOptions]
  obtain ⟨calls, hcounted⟩ := hcount _ hready hstore 3
  refine ⟨⟨⟨hready, hstore, hopens⟩, hlist⟩, ⟨docs, hlisted, ⟨hready, hstore, fun doc hdoc => ?_⟩,
    hcovers⟩, ⟨calls, ?_⟩, by decide +kernel⟩
  · exact hopens doc (List.mem_filter.1 (hlisted.perm.mem_iff.1 hdoc)).1
  · have hfive : (documentsOf bookStore "books").length = 5 := by decide +kernel
    have hname : bookModel.name = "books" := rfl
    rw [hname, hfive] at hcounted
    exact hcounted

end Model

end DocMapper
