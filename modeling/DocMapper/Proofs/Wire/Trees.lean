import DocMapper.Call.Query
import DocMapper.Proofs.Data.Outcome
import DocMapper.Proofs.Value.Likeness
/-!
# Trees of queries and plain data

`Value.IsTree` are the queries over plain data. Whatever the builders make of trees is a tree
(`Value.isTree_ofCall`), as long as names are texts, paths are made of names and positions, and parameters
are dictionaries (`Query.AreProper`).
-/

namespace DocMapper

/-- Every key is a text. -/
def Dict.IsNamed (d : Dict Value) : Prop := ∀ e ∈ d, e.1.isText = true

/-- A step of a path: a name or a position. -/
inductive Value.IsStep : Value → Prop
  | text (s : String) : IsStep (.text s)
  | int (n : Int) : IsStep (.int n)

/-- The steps of a selection are names and positions. -/
def Query.HasSteps : Query → Prop
  | .select path _ _ => ∀ step ∈ path, step.IsStep
  | _ => True

/-- Queries over plain data. Dictionaries have distinct texts for keys, and so have bindings and
parameters; paths are made of names and positions. -/
inductive Value.IsTree : Value → Prop
  | null : IsTree .null
  | bool (b : Bool) : IsTree (.bool b)
  | int (n : Int) : IsTree (.int n)
  | text (s : String) : IsTree (.text s)
  | timestamp (t : Timestamp) : IsTree (.timestamp t)
  | date (d : Date) : IsTree (.date d)
  | ref (r : Ref) : IsTree (.ref r)
  | list {items : List Value} (h : ∀ v ∈ items, IsTree v) : IsTree (.list items)
  | dict {entries : Dict Value} (hdistinct : Dict.Distinct entries) (hnamed : entries.IsNamed)
    (h : ∀ e ∈ entries, IsTree e.2) : IsTree (.dict entries)
  | letIn {bindings : Dict Value} {body : Value} (hdistinct : Dict.Distinct bindings)
    (hnamed : bindings.IsNamed) (h : ∀ e ∈ bindings, IsTree e.2) (hbody : IsTree body) :
    IsTree (.query (.letIn bindings body))
  | query {q : Query} (hlet : q.operation ≠ "let") (hsteps : q.HasSteps)
    (h : ∀ e ∈ q.arguments, IsTree e.2) : IsTree (.query q)

/-! ## Builders -/

/-- Names are texts, paths are made of steps, and parameters are dictionaries. -/
def Query.AreProper (name : String) (args : List Value) : Prop :=
  match name, args with
  | "let", .list pairs :: _ => ∀ pair ∈ pairs, ∃ key v, pair = .list [.text key, v]
  | "select", path :: _ => ∀ step ∈ selectPath path, step.IsStep
  | "create", [_, params] | "update", [_, params] | "replace", [_, params]
  | "create_collection", [params] | "create_index", [params] => ∃ entries, params = .dict entries
  | _, _ => True

namespace Value

theorem IsTree.of_list {items : List Value} (h : IsTree (Value.list items)) :
    ∀ v ∈ items, v.IsTree := by
  cases h with
  | list h => exact h

theorem IsTree.of_dict {entries : Dict Value} (h : IsTree (Value.dict entries)) :
    ∀ e ∈ entries, e.2.IsTree := by
  cases h with
  | dict _ _ h => exact h

theorem IsTree.of_given {v w : Value} (hv : v.IsTree) (h : v.given = some w) : w.IsTree := by
  unfold given at h
  split at h
  · cases h
  · cases h
    exact hv

theorem IsTree.of_lookup {entries : Dict Value} (h : ∀ e ∈ entries, e.2.IsTree) (name : String) :
    (lookup entries name).IsTree := by
  rw [lookup]
  cases hfound : Dict.get? entries name with
  | none => exact .null
  | some v =>
    obtain ⟨k, hmem, -⟩ := Dict.exists_mem_of_get? hfound
    exact h _ hmem

theorem IsStep.isTree {step : Value} (h : step.IsStep) : step.IsTree := by
  cases h with
  | text s => exact .text s
  | int n => exact .int n

/-! ## Queries of several forms -/

/-- An argument that may be left out is a tree if what is given is. -/
theorem isTree_argument {name : String} {o : Option Value} (h : ∀ v, o = some v → v.IsTree) :
    ∀ e ∈ Query.argument name o, e.2.IsTree := by
  cases o with
  | none => exact List.forall_mem_nil _
  | some v => exact List.forall_mem_singleton.2 (h v rfl)

section

variable {source : Value} (hsource : source.IsTree)

include hsource

theorem isTree_page {size after before : Value} (hsize : size.IsTree) (hafter : after.IsTree)
    (hbefore : before.IsTree) : (query (.page source size after before)).IsTree := by
  have hoptions := List.forall_mem_append.2 ⟨List.forall_mem_append.2
    ⟨@isTree_argument "size" _ fun _ => hsize.of_given,
      @isTree_argument "after" _ fun _ => hafter.of_given⟩,
    @isTree_argument "before" _ fun _ => hbefore.of_given⟩
  exact .query (by simp [Query.page, Query.operation]) trivial
    (List.forall_mem_cons.2 ⟨hsource, hoptions⟩)

theorem isTree_pageOf {options : Value} (hoptions : options.IsTree) {q : Query}
    (h : Query.pageOf source options = .ok q) : (query q).IsTree := by
  have hpage : ∀ members : Dict Value, (∀ e ∈ members, e.2.IsTree) →
      (query (.page source (lookup members "size") (lookup members "after")
        (lookup members "before"))).IsTree := fun members htrees =>
    isTree_page hsource (.of_lookup htrees _) (.of_lookup htrees _) (.of_lookup htrees _)
  unfold Query.pageOf at h
  simp only [pure_bind] at h
  split at h
  · split at h
    · cases h
    · cases h
      exact hpage [] (List.forall_mem_nil _)
  · obtain ⟨members, hmembers, h⟩ := Except.bind_eq_ok.1 h
    have htrees : ∀ e ∈ members, e.2.IsTree := by
      unfold named at hmembers
      split at hmembers
      · split at hmembers
        · cases hmembers
          exact hoptions.of_dict
        · cases hmembers
      · cases hmembers
    split at h
    · cases h
    · cases h
      exact hpage members htrees

theorem isTree_selecting {path : Value} {fallback : Option Value}
    (hpath : ∀ step ∈ Query.selectPath path, step.IsStep)
    (hfallback : ∀ v, fallback = some v → v.IsTree) :
    (query (.selecting path source fallback)).IsTree := by
  have hsteps : IsTree (.list (Query.selectPath path)) := .list fun v hv => (hpath v hv).isTree
  exact .query (by simp [Query.selecting, Query.operation]) hpath
    (List.forall_mem_cons.2 ⟨hsteps, List.forall_mem_cons.2 ⟨hsource, isTree_argument hfallback⟩⟩)

theorem isTree_lookUp {terms : List Value} (hterms : ∀ v ∈ terms, v.IsTree) :
    (query (.lookUp source terms)).IsTree := by
  have hmatching : ∀ given : Option Value, (∀ v, given = some v → v.IsTree) →
      (query (.matching source given)).IsTree := fun given hgiven =>
    .query (by simp [Query.operation]) trivial
      (List.forall_mem_cons.2 ⟨hsource, isTree_argument hgiven⟩)
  unfold Query.lookUp
  split
  · exact hmatching none (by rintro _ ⟨⟩)
  · refine hmatching _ ?_
    rintro _ ⟨⟩
    exact hterms _ List.mem_cons_self
  · refine hmatching _ ?_
    rintro _ ⟨⟩
    exact .list hterms

end

theorem isTree_letIn {pairs : List Value} {bindings : Dict Value} {body : Value}
    (hpairs : ∀ pair ∈ pairs, ∃ key v, pair = .list [.text key, v])
    (h : pairs.mapM toEntry = .ok bindings) (htrees : ∀ pair ∈ pairs, pair.IsTree)
    (hbody : body.IsTree) : (query (.letIn (Dict.ofEntries bindings) body)).IsTree := by
  rw [Except.mapM_eq_ok] at h
  have hentries : ∀ e ∈ bindings, e.1.isText = true ∧ e.2.IsTree := by
    intro e he
    obtain ⟨pair, hmem, hentry⟩ := exists_mem_of_forall₂ h he
    obtain ⟨key, v, rfl⟩ := hpairs pair hmem
    cases hentry
    exact ⟨rfl, IsTree.of_list (htrees _ hmem) v (by simp)⟩
  have hnamed : Dict.IsNamed (Dict.ofEntries bindings) := by
    intro e he
    rcases Dict.mem_keys_putAll (List.mem_map_of_mem he) with hnone | hkey
    · cases hnone
    · obtain ⟨e', he', hsame⟩ := List.mem_map.1 hkey
      rw [← hsame]
      exact (hentries e' he').1
  exact .letIn (Dict.distinct_ofEntries _) hnamed
    (Dict.forall_mem_putAll (List.forall_mem_nil _) fun e he => (hentries e he).2) hbody

/-- **Builders make trees of trees.** -/
theorem isTree_ofCall {name : String} {args : List Value} {q : Query}
    (h : Query.ofCall name args = .ok q) (hargs : ∀ v ∈ args, v.IsTree)
    (hproper : Query.AreProper name args) : (query q).IsTree := by
  unfold Query.ofCall at h
  split at h
  case h_1 pairs body =>
    obtain ⟨bindings, hbindings, h⟩ := Except.bind_eq_ok.1 h
    cases h
    exact isTree_letIn hproper hbindings (hargs _ (by simp)).of_list (hargs _ (by simp))
  case h_4 =>
    unfold Query.inOrder at h
    split at h
    · cases h
    · cases h
      exact .query (by simp [Query.operation]) trivial
        (List.forall_mem_singleton.2 (.list hargs))
  case h_8 path source =>
    cases h
    exact isTree_selecting (hargs _ (by simp)) hproper (by rintro _ ⟨⟩)
  case h_9 path source fallback =>
    cases h
    refine isTree_selecting (hargs _ (by simp)) hproper ?_
    rintro _ ⟨⟩
    exact hargs _ (by simp)
  case h_19 source terms =>
    cases h
    exact isTree_lookUp (hargs _ List.mem_cons_self) fun v hv => hargs v (List.mem_cons_of_mem _ hv)
  case h_20 source => exact isTree_pageOf (hargs _ (by simp)) .null h
  case h_21 source options => exact isTree_pageOf (hargs _ (by simp)) (hargs _ (by simp)) h
  case h_29 => cases h
  case h_12 x scope | h_14 x scope =>
    cases h
    exact .query (by simp [Query.operation]) trivial (List.forall_mem_cons.2
      ⟨hargs _ (by simp), isTree_argument fun _ => IsTree.of_given (hargs _ (by simp))⟩)
  case h_23 source params | h_24 source params | h_25 source params =>
    obtain ⟨entries, rfl⟩ := hproper
    cases h
    exact .query (by simp [Query.operation]) trivial (by simpa [Query.arguments] using hargs)
  case h_27 params | h_28 params =>
    obtain ⟨entries, rfl⟩ := hproper
    cases h
    exact .query (by simp [Query.operation]) trivial (by simpa [Query.arguments] using hargs)
  all_goals
    cases h
    refine .query (by simp [Query.operation]) trivial ?_
    simp_all [Query.arguments, Query.argument]

end Value

end DocMapper
