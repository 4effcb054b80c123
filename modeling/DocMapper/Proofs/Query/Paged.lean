import DocMapper.Proofs.Data.Outcome
import DocMapper.Proofs.Query.Yields
/-!
# What pages come to

A page is cut out of a set by position, so it makes no difference whether a function is mapped over
a page of a set or over the set first (`Store.page_map`). A query that looks up each reference on a
page therefore comes to a page of documents (`Store.Yields.page_documents`).
-/

namespace DocMapper

/-! ## Sending -/

namespace Query

attribute [local simp] Value.toWire Query.toWire Wire.unstorable? Wire.unstorableMember?
  Wire.unstorableIn? Wire.fields

@[simp] theorem sendable_documents {c : Value} : (documents c).Sendable ↔ c.Sendable := by
  simp [Sendable, Value.Sendable]

@[simp] theorem sendable_count {target : Value} : (count target).Sendable ↔ target.Sendable := by
  simp [Sendable, Value.Sendable]

/-- An argument that is given can be sent if the value can. -/
theorem sendable_of_given {v w : Value} (hv : v.Sendable) (h : v.given = some w) : w.Sendable := by
  unfold Value.given at h
  split at h
  · cases h
  · exact Option.some.inj h ▸ hv

/-- A page can be sent if its arguments can. -/
theorem Sendable.page {source size after before : Value} (hsource : source.Sendable)
    (hsize : size.Sendable) (hafter : after.Sendable) (hbefore : before.Sendable) :
    (page source size after before).Sendable := by
  have hargument : ∀ {name : String} {v : Value}, v.Sendable →
      Wire.unstorableMember? (Value.toWireOption name v.given) = none := fun hv =>
    Value.unstorableMember?_toWireOption.2 fun w hw => sendable_of_given hv hw
  have hmembers : Wire.unstorableMember? (Value.toWireOption "size" size.given
      ++ Value.toWireOption "after" after.given ++ Value.toWireOption "before" before.given) =
      none := by
    rw [Wire.unstorableMember?_eq_none]
    intro e he
    rcases List.mem_append.1 he with he | he
    · rcases List.mem_append.1 he with he | he
      · exact Wire.unstorableMember?_eq_none.1 (hargument hsize) e he
      · exact Wire.unstorableMember?_eq_none.1 (hargument hafter) e he
    · exact Wire.unstorableMember?_eq_none.1 (hargument hbefore) e he
  have hsource : source.toWire.unstorable? = none := hsource
  rw [Sendable, Query.page, Query.toWire, Wire.unstorable?, Wire.unstorableMember?, hsource]
  exact hmembers

/-- A look-up can be sent if the index and the terms can. -/
theorem Sendable.lookUp {index : Value} {terms : List Value} (hindex : index.Sendable)
    (hterms : ∀ v ∈ terms, v.Sendable) : (lookUp index terms).Sendable := by
  have hmatching : ∀ terms : Option Value, (∀ v, terms = some v → v.Sendable) →
      (matching index terms).Sendable := by
    intro terms hterms
    have hindex : index.toWire.unstorable? = none := hindex
    rw [Sendable, Query.toWire, Wire.unstorable?, Wire.unstorableMember?, hindex]
    exact Value.unstorableMember?_toWireOption.2 hterms
  rcases terms with _ | ⟨first, _ | ⟨second, rest⟩⟩
  · exact hmatching none (by simp)
  · refine hmatching (some first) ?_
    rintro _ ⟨rfl⟩
    exact hterms _ List.mem_cons_self
  · refine hmatching (some (.list (first :: second :: rest))) ?_
    rintro _ ⟨rfl⟩
    exact Value.sendable_list.2 hterms

end Query

namespace Store

open Action

variable {apply : Value → Value → Action Evaluation Value} {b : Bindings} {s t : Store}

/-! ## Cutting pages out -/

theorem slice_map {α β : Type} (f : α → β) (xs : List α) (start stop : Int) :
    slice (xs.map f) start stop = (slice xs start stop).map f := by
  simp [slice, List.map_drop, List.map_take]

/-- The members of a page of some data. -/
def pageMembers (data : List Value) (count : Nat) (start stop : Value) (first last : Int) :
    Dict Value :=
  (.text "data", .list data) :: ((if last < count then [(Key.text "after", stop)] else [])
    ++ (if 0 < first then [(Key.text "before", start)] else []))

/-- **A page is a part of a set**, with the places where its neighbours begin. -/
theorem page_eq_ok {entries : List Value} {size after before v : Value} :
    page (.rows entries) size after before = .ok v ↔ ∃ start stop first last,
      pageBounds size after before = .ok (start, stop) ∧ start.asPosition = .ok first ∧
      stop.asPosition = .ok last ∧
      v = .dict (pageMembers (slice entries first last) entries.length start stop first last) := by
  have hmembers : ∀ (start stop : Value) (first last : Int), Value.object
      ([("data", .list (slice entries first last))]
        ++ (if last < entries.length then [("after", stop)] else [])
        ++ (if 0 < first then [("before", start)] else [])) =
      .dict (pageMembers (slice entries first last) entries.length start stop first last) := by
    intro start stop first last
    rw [pageMembers, Value.object]
    split
    all_goals split
    all_goals rfl
  rw [page, Except.bind_eq_ok]
  simp only [Prod.exists, pageOf, Except.bind_eq_ok]
  refine exists₂_congr fun start stop => ?_
  constructor
  · rintro ⟨hbounds, first, hfirst, last, hlast, hv⟩
    exact ⟨first, last, hbounds, hfirst, hlast, (Except.ok.inj hv).symm.trans (hmembers ..)⟩
  · rintro ⟨first, last, hbounds, hfirst, hlast, rfl⟩
    exact ⟨hbounds, first, hfirst, last, hlast, congrArg Except.ok (hmembers ..)⟩

/-- Where a page of one set fails, a page of any other does. -/
theorem page_eq_error {entries others : List Value} {size after before : Value} {fault : Fault}
    (h : page (.rows entries) size after before = .error fault) :
    page (.rows others) size after before = .error fault := by
  rw [page] at h ⊢
  cases hbounds : pageBounds size after before with
  | error cause =>
    rw [hbounds] at h
    exact h
  | ok bounds =>
    rw [hbounds] at h
    obtain ⟨start, stop⟩ := bounds
    simp only [bind, Except.bind, pageOf] at h ⊢
    cases hstart : start.asPosition with
    | error cause => rwa [hstart] at h
    | ok first =>
      rw [hstart] at h
      cases hstop : stop.asPosition with
      | error cause => rwa [hstop] at h
      | ok last =>
        rw [hstop] at h
        cases h

/-- A page from the beginning on that is large enough is the whole of a set. -/
theorem page_whole {entries : List Value} {size : Int} (h : entries.length ≤ size) :
    page (.rows entries) (.int size) .null .null =
      .ok (.dict [(.text "data", .list entries)]) := by
  refine page_eq_ok.2 ⟨.int 0, .int (0 + size), 0, 0 + size, rfl, rfl, rfl, ?_⟩
  have hslice : slice entries 0 (0 + size) = entries := by
    have hsize : ¬ size < 0 := by omega
    have hnat : entries.length ≤ size.toNat := by omega
    simp [slice, sliceEnd, hsize, Nat.min_eq_right hnat]
  have hlast : ¬ 0 + size < entries.length := by omega
  rw [pageMembers, hslice, if_neg hlast, if_neg (Int.lt_irrefl 0)]
  rfl

/-- A page of one entry from the beginning on leads to the first entry of a set. -/
theorem exists_page_one (first : Value) (rest : List Value) : ∃ v,
    page (.rows (first :: rest)) (.int 1) .null .null = .ok v ∧
      select? v [.text "data", .int 0] = some first := by
  refine ⟨_, page_eq_ok.2 ⟨.int 0, .int 1, 0, 1, rfl, rfl, rfl, rfl⟩, ?_⟩
  have hslice : slice (first :: rest) 0 1 = [first] := by simp [slice, sliceEnd]
  rw [hslice]
  rfl

/-! ## Sets and pages of them -/

theorem Yields.documents {c : Value} {r : Ref} (hc : Yields apply b s c (.ok (.ref r)) t) :
    Yields apply b s (.query (.documents c))
      (.ok (.rows ((t.documents r.id).values.map fun doc => .ref doc.ref))) t := by
  intro frame frames
  obtain ⟨f₁, h₁⟩ := hc frame frames
  refine ⟨f₁, ?_⟩
  simp only [evaluateWith, evaluateQuery, perform_bind, h₁]
  rfl

theorem Yields.count {target v : Value} (ht : Yields apply b s target (.ok v) t) :
    Yields apply b s (.query (.count target)) (Store.count v) t := by
  intro frame frames
  obtain ⟨f₁, h₁⟩ := ht frame frames
  exact ⟨f₁, by simp only [evaluateWith, evaluateQuery, perform_bind, h₁, perform_liftM]⟩

/-- What an argument that may be missing comes to. -/
theorem perform_given (otherwise : Value) {v w : Value} (hv : Yields apply b s v (.ok w) s)
    (hnull : v = .null → w = otherwise) (frame : Option Nat) (frames : List Bindings) :
    ∃ frames', (evaluateOption apply otherwise v.given ⟨b, frame⟩).perform ⟨s, frames⟩ =
      (.ok w, ⟨s, frames'⟩) := by
  unfold Value.given
  split
  · rw [hnull rfl]
    exact ⟨frames, rfl⟩
  · exact hv frame frames

/-- A page of a set, none of whose arguments has any effect. -/
theorem Yields.paged {source size after before z x y : Value} {entries : List Value}
    (hsource : Yields apply b s source (.ok (.rows entries)) s)
    (hsize : Yields apply b s size (.ok z) s) (hgiven : size ≠ .null)
    (hafter : Yields apply b s after (.ok x) s) (hx : after = .null → x = .null)
    (hbefore : Yields apply b s before (.ok y) s) (hy : before = .null → y = .null) :
    Yields apply b s (.query (Query.page source size after before))
      (Store.page (.rows entries) z x y) s := by
  intro frame frames
  obtain ⟨f₁, h₁⟩ := hsource frame frames
  obtain ⟨f₂, h₂⟩ := perform_given (.int 64) hsize (fun h => absurd h hgiven) frame f₁
  obtain ⟨f₃, h₃⟩ := perform_given .null hafter hx frame f₂
  obtain ⟨f₄, h₄⟩ := perform_given .null hbefore hy frame f₃
  refine ⟨f₄, ?_⟩
  simp only [Query.page, evaluateWith, evaluateQuery, perform_bind, h₁, isSet, Bool.not_true,
    Bool.false_eq_true, if_false, h₂, h₃, h₄]
  rfl

/-- A function is not applied to a source that fails. -/
theorem Yields.map_error {source body : Value} {parameter : String} {fault : Fault}
    (hs : Yields apply b s source (.error fault) t) :
    Yields apply b s (.query (.map (.query (.lambda (.text parameter) body)) source))
      (.error fault) t := by
  intro frame frames
  obtain ⟨f₁, h₁⟩ := hs frame frames
  refine ⟨f₁, ?_⟩
  simp only [evaluateWith, evaluateQuery, perform_bind, h₁]

/-- A look for a document without any effect. -/
def fetching (r : Ref) : Action Store Value := .of fun s => (s.fetch (.ref r), s)

/-- Looks for documents that are all there find them, one after another. -/
theorem perform_fetching {docs : List StoredDocument}
    (h : ∀ doc ∈ docs, s.fetch (.ref doc.ref) = .ok (.dict doc.members)) :
    (docs.mapM fun doc => fetching doc.ref).perform s =
      (.ok (docs.map fun doc => .dict doc.members), s) := by
  induction docs with
  | nil => rfl
  | cons doc rest ih =>
    obtain ⟨hdoc, hrest⟩ := List.forall_mem_cons.1 h
    rw [Action.perform_mapM_cons, fetching, perform_of, hdoc]
    simp only [ih hrest]
    rfl

/-- **The documents of a page of entries are a page of the documents.** -/
theorem Yields.page_documents (docs : List StoredDocument) (entry : StoredDocument → Value)
    {source target z x y : Value} {parameter : String}
    (hsource : Yields apply b s source (Store.page (.rows (docs.map entry)) z x y) s)
    (htarget : ∀ doc ∈ docs, ∀ s, Yields apply (b.put parameter (entry doc)) s target
      (.ok (.ref doc.ref)) s)
    (hfetch : ∀ doc ∈ docs, s.fetch (.ref doc.ref) = .ok (.dict doc.members)) :
    Yields apply b s
      (.query (.map (.query (.lambda (.text parameter) (.query (.get target)))) source))
      (Store.page (.rows (docs.map fun doc => .dict doc.members)) z x y) s := by
  cases hpage : Store.page (.rows (docs.map entry)) z x y with
  | error fault =>
    rw [page_eq_error hpage]
    rw [hpage] at hsource
    exact Yields.map_error hsource
  | ok v =>
    obtain ⟨start, stop, first, last, hbounds, hfirst, hlast, rfl⟩ := page_eq_ok.1 hpage
    have hdocuments : Store.page (.rows (docs.map fun doc => .dict doc.members)) z x y = .ok _ :=
      page_eq_ok.2 ⟨start, stop, first, last, hbounds, hfirst, hlast, rfl⟩
    have hpart : ∀ doc ∈ slice docs first last, doc ∈ docs := by
      intro doc hdoc
      exact List.mem_of_mem_drop (List.mem_of_mem_take hdoc)
    rw [hpage] at hsource
    have hmap := Yields.map_page (f := fun doc => fetching doc.ref) hsource
      (by rw [pageMembers, slice_map]; rfl)
      (fun doc hdoc s => Yields.get (htarget doc (hpart doc hdoc) s))
    rw [perform_fetching fun doc hdoc => hfetch doc (hpart doc hdoc)] at hmap
    rw [hdocuments, slice_map, List.length_map]
    rw [List.length_map] at hmap
    exact hmap

end Store

end DocMapper
