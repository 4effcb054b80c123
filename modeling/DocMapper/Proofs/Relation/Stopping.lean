import Mathlib.Data.List.Pairwise
import DocMapper.Proofs.Relation.Registering
/-!
# Where registering and resolving stop

Neither of the two phases takes anything back when it comes to a fault. Registering stops at the first
model whose name another model has, and keeps those in front of it (`Registry.register_stops`).
Resolving stops at the first relation that asks for a name that is not registered; the relations in
front of it, those of earlier models included, stay bound, and every other one points to what it did
(`Registry.phases_stop_midway`).

The two loops of resolving are taken as one loop over all relations in their order
(`Registry.relations`), which does not change meanwhile: binding leaves the definitions alone.
-/

namespace DocMapper

open Action

/-- What becomes of the relations of a model of which some were resolved among registered models. -/
structure RelationCatalog.ResolvedIn (models : List (String × Nat))
    (reached : Key × RelationDefinition → Prop) (before after : RelationCatalog) : Prop where
  definitions : after.definitions = before.definitions
  /-- a relation by name that was reached points to what its target means -/
  named : ∀ key d target, (key, d) ∈ before.definitions → reached (key, d) →
    d.target = .named target →
      ∃ found, target.Finds models found ∧ ∀ known, after.related known (.ofKey key) = .ok found
  /-- a function points to what it did -/
  deferred : ∀ key d f, (key, d) ∈ before.definitions → d.target = .function f →
    ∀ known, after.related known (.ofKey key) = before.related known (.ofKey key)
  /-- a relation that was not reached points to what it did -/
  others : ∀ key d, (key, d) ∈ before.definitions → ¬ reached (key, d) →
    ∀ known, after.related known (.ofKey key) = before.related known (.ofKey key)

namespace Registry

variable {held kept models rest : List (String × Nat)} {r r' : Registry} {name : String}
  {model : Nat} {fault : Fault}

/-! ## Registering -/

/-- The fault of a name that another model has. -/
def nameTaken (name : String) : Fault :=
  .misconfigured "register" (.text name) "a different model already uses this name"

/-- What is registered once some models were taken up beside those that were held. -/
structure Joined (held models kept : List (String × Nat)) : Prop where
  names : (kept.map Prod.fst).Nodup
  held_prefix : held <+: kept
  mem_iff : ∀ m, m ∈ kept ↔ m ∈ held ∨ m ∈ models

theorem Joined.nil (hnames : (held.map Prod.fst).Nodup) : Joined held [] held :=
  ⟨hnames, List.prefix_rfl, by simp⟩

/-- A model that is registered already adds nothing. -/
theorem Joined.cons_of_mem {m : String × Nat} (hm : m ∈ held) (h : Joined held models kept) :
    Joined held (m :: models) kept := by
  refine ⟨h.names, h.held_prefix, fun m' => ?_⟩
  rw [h.mem_iff, List.mem_cons]
  constructor
  · exact Or.imp_right Or.inr
  · rintro (hheld | rfl | hmodels)
    · exact Or.inl hheld
    · exact Or.inl hm
    · exact Or.inr hmodels

/-- A new model comes to those that are held. -/
theorem Joined.cons_new {m : String × Nat} (h : Joined (held ++ [m]) models kept) :
    Joined held (m :: models) kept := by
  refine ⟨h.names, (List.prefix_append held [m]).trans h.held_prefix, fun m' => ?_⟩
  rw [h.mem_iff, List.mem_append, List.mem_singleton, List.mem_cons, or_assoc]

theorem get?_ofModels (hnames : (held.map Prod.fst).Nodup) (h : (name, model) ∈ held) :
    (ofModels held).models.get? name = some model :=
  (distinct_ofModels hnames).get?_of_mem (List.mem_map.2 ⟨(name, model), h, rfl⟩)

theorem registerOne_of_mem (hnames : (held.map Prod.fst).Nodup) (h : (name, model) ∈ held) :
    (ofModels held).registerOne name model = .ok (ofModels held) := by
  rw [registerOne, get?_ofModels hnames h]
  exact if_pos rfl

theorem registerOne_of_taken (hnames : (held.map Prod.fst).Nodup) {other : Nat}
    (h : (name, other) ∈ held) (hother : other ≠ model) :
    (ofModels held).registerOne name model = .error (nameTaken name) := by
  rw [registerOne, get?_ofModels hnames h]
  exact if_neg hother

theorem perform_register_cons_ok (h : r.registerOne name model = .ok r') :
    (register ((name, model) :: rest)).perform r = (register rest).perform r' := by
  have hone : (liftM (r.registerOne name model) : Action Registry Registry).perform r =
      (.ok r', r) := by rw [h, perform_liftM]
  rw [register, perform_bind_ok (perform_get r), perform_bind_ok hone,
    perform_bind_ok (perform_set r r')]

theorem perform_register_cons_error (h : r.registerOne name model = .error fault) :
    (register ((name, model) :: rest)).perform r = (.error fault, r) := by
  have hone : (liftM (r.registerOne name model) : Action Registry Registry).perform r =
      (.error fault, r) := by rw [h, perform_liftM]
  rw [register, perform_bind_ok (perform_get r), perform_bind_error hone]

/-- How registering some models ends: with all of them, or in front of one whose name another model
has. -/
def Ends (kept rest : List (String × Nat)) : Except Fault Unit → Prop
  | .ok _ => rest = []
  | .error fault => ∃ name model others other, rest = (name, model) :: others ∧
      fault = nameTaken name ∧ (name, other) ∈ kept ∧ other ≠ model

/-- **Registering goes on up to the first model whose name another model has**, and keeps those in
front of it. -/
theorem register_stops (hnames : (held.map Prod.fst).Nodup) (models : List (String × Nat)) :
    ∃ done rest kept, models = done ++ rest ∧ Joined held done kept ∧
      ((register models).perform (ofModels held)).2 = ofModels kept ∧
      Ends kept rest ((register models).perform (ofModels held)).1 := by
  induction models generalizing held with
  | nil => exact ⟨[], [], held, rfl, .nil hnames, rfl, rfl⟩
  | cons m others ih =>
    obtain ⟨name, model⟩ := m
    by_cases hname : name ∈ held.map Prod.fst
    · obtain ⟨⟨_, other⟩, hheld, rfl⟩ := List.mem_map.1 hname
      by_cases hother : other = model
      · subst hother
        rw [perform_register_cons_ok (registerOne_of_mem hnames hheld)]
        obtain ⟨done, rest, kept, rfl, hjoined, hafter, hends⟩ := ih hnames
        exact ⟨_ :: done, rest, kept, rfl, hjoined.cons_of_mem hheld, hafter, hends⟩
      · rw [perform_register_cons_error (registerOne_of_taken hnames hheld hother)]
        exact ⟨[], _, held, rfl, .nil hnames, rfl, _, model, others, other, rfl, rfl, hheld, hother⟩
    · have hnames' : ((held ++ [(name, model)]).map Prod.fst).Nodup := by
        rw [List.map_append, List.nodup_append]
        refine ⟨hnames, List.pairwise_singleton _ _, ?_⟩
        rintro x hx _ hy rfl
        obtain rfl : x = name := List.mem_singleton.1 hy
        exact hname hx
      rw [perform_register_cons_ok (registerOne_ofModels (m := (name, model)) hname)]
      obtain ⟨done, rest, kept, rfl, hjoined, hafter, hends⟩ := ih hnames'
      exact ⟨_ :: done, rest, kept, rfl, hjoined.cons_new, hafter, hends⟩

/-! ## Resolving as one loop -/

variable {catalogs after : List RelationCatalog}

/-- The relations of a model, with its number. -/
def relationsOf (catalogs : List RelationCatalog) (n : Nat) :
    List (Nat × Key × RelationDefinition) :=
  (catalogs[n]?.elim [] RelationCatalog.definitions).map fun e => (n, e)

/-- The relations of registered models in the order in which they are resolved. -/
def relations (models : List (String × Nat)) (catalogs : List RelationCatalog) :
    List (Nat × Key × RelationDefinition) :=
  (models.map Prod.snd).flatMap (relationsOf catalogs)

/-- Resolves one relation of all. -/
def resolveAt (r : Registry) (e : Nat × Key × RelationDefinition) :
    Action (List RelationCatalog) Unit :=
  r.resolveRelation e.1 e.2.1 e.2.2

/-- The catalogs with one relation of all bound. -/
def bindAt (r : Registry) (catalogs : List RelationCatalog) (e : Nat × Key × RelationDefinition) :
    List RelationCatalog :=
  catalogs.modify e.1 fun c => r.bindFrom c e.2

theorem preserves_resolveAt (r : Registry) (e : Nat × Key × RelationDefinition)
    (others : List RelationCatalog) :
    Preserves (fun s => SameRelations s others) (r.resolveAt e) := by
  intro s hs
  unfold resolveAt resolveRelation
  split
  · exact hs
  · refine Preserves.lift_bind (P := fun s => SameRelations s others) (fun found _ t ht i => ?_) s hs
    rw [← ht i, perform_modify, List.getElem?_modify, Option.map_eq_map, Option.map_map]
    refine congrArg (Option.map · _) (funext fun c => ?_)
    by_cases hn : e.1 = i <;> simp [hn, RelationCatalog.bind]

theorem perform_resolveModel_eq (r : Registry) (n : Nat) {s : List RelationCatalog}
    (hs : SameRelations s catalogs) :
    (r.resolveModel n).perform s = ((relationsOf catalogs n).forM r.resolveAt).perform s := by
  rw [resolveModel, perform_bind_ok (perform_get s), relationsOf]
  have hn := hs n
  cases hc : s[n]? with
  | none =>
    rw [hc] at hn
    rw [Option.map_eq_none_iff.1 hn.symm]
    rfl
  | some c =>
    rw [hc] at hn
    obtain ⟨c', hc', hsame⟩ := Option.map_eq_some_iff.1 hn.symm
    rw [hc', Option.elim_some, hsame, List.forM_eq_forM, List.forM_eq_forM, List.forM_map]
    rfl

/-- **Resolving goes through all relations in their order.** -/
theorem perform_resolve_eq : (ofModels models).resolve.perform catalogs =
    ((relations models catalogs).forM (ofModels models).resolveAt).perform catalogs := by
  rw [resolve, values_ofModels, relations]
  generalize models.map Prod.snd = numbers
  have hloop : ∀ s, SameRelations s catalogs →
      (numbers.forM (ofModels models).resolveModel).perform s =
        ((numbers.flatMap (relationsOf catalogs)).forM (ofModels models).resolveAt).perform s := by
    induction numbers with
    | nil => exact fun _ _ => rfl
    | cons n rest ih =>
      intro s hs
      have hfirst := perform_resolveModel_eq (ofModels models) n hs
      have hkept : SameRelations
          (((relationsOf catalogs n).forM (ofModels models).resolveAt).perform s).2 catalogs :=
        Preserves.forM (fun e _ => preserves_resolveAt _ e catalogs) s hs
      rw [List.flatMap_cons, List.forM_eq_forM, List.forM_eq_forM, List.forM_cons, List.forM_append,
        ← List.forM_eq_forM, perform_bind, perform_bind, hfirst]
      generalize ((relationsOf catalogs n).forM (ofModels models).resolveAt).perform s = ran at hkept
      obtain ⟨_ | _, t⟩ := ran
      · rfl
      · exact ih t hkept
  exact hloop catalogs fun _ => rfl

/-- Whether every name that a relation asks for is registered. -/
def Answers (models : List (String × Nat)) (e : Nat × Key × RelationDefinition) : Prop :=
  ∀ name ∈ e.2.2.target.names, name ∈ models.map Prod.fst

/-- **Resolving stops at the first relation that asks for a name that is not registered**, and keeps
what the relations in front of it were bound to. -/
theorem resolve_stops (hnames : (models.map Prod.fst).Nodup)
    (h : (ofModels models).resolve.perform catalogs = (.error fault, after)) :
    ∃ done stop rest name, relations models catalogs = done ++ stop :: rest ∧
      (∀ e ∈ done, Answers models e) ∧ name ∈ stop.2.2.target.names ∧
      name ∉ models.map Prod.fst ∧ fault = unregistered name ∧
      after = done.foldl (ofModels models).bindAt catalogs := by
  rw [perform_resolve_eq] at h
  generalize relations models catalogs = entries at h ⊢
  induction entries generalizing catalogs with
  | nil => cases h
  | cons e rest ih =>
    have hcons : (e :: rest).forM (ofModels models).resolveAt =
        (ofModels models).resolveAt e >>= fun _ => rest.forM (ofModels models).resolveAt := rfl
    rw [hcons] at h
    by_cases he : Answers models e
    · have hstep : ((ofModels models).resolveAt e).perform catalogs =
          (.ok ⟨⟩, (ofModels models).bindAt catalogs e) :=
        perform_resolveRelation hnames e.1 e.2 he catalogs
      rw [perform_bind_ok hstep] at h
      obtain ⟨done, stop, rest', name, rfl, hdone, hname, hmissing, hfault, hafter⟩ := ih h
      exact ⟨e :: done, stop, rest', name, rfl, List.forall_mem_cons.2 ⟨he, hdone⟩, hname, hmissing,
        hfault, hafter⟩
    · obtain ⟨name, hname, hmissing, hstep⟩ : ∃ name ∈ e.2.2.target.names,
          name ∉ models.map Prod.fst ∧ ((ofModels models).resolveAt e).perform catalogs =
            (.error (unregistered name), catalogs) :=
        perform_resolveRelation_error e.1 e.2 he catalogs
      rw [perform_bind_error hstep] at h
      cases h
      exact ⟨[], e, rest, name, rfl, List.forall_mem_nil _, hname, hmissing, rfl, rfl⟩

/-! ## What the relations point to then -/

/-- Binding relations of all models binds in each catalog those that are its own. -/
theorem getElem?_foldl_bindAt (r : Registry) (entries : List (Nat × Key × RelationDefinition))
    (catalogs : List RelationCatalog) (n : Nat) : (entries.foldl r.bindAt catalogs)[n]? =
      catalogs[n]?.map ((entries.filter (·.1 = n)).map Prod.snd |>.foldl r.bindFrom) := by
  induction entries generalizing catalogs with
  | nil => simp
  | cons e rest ih =>
    rw [List.foldl_cons, ih, bindAt, List.getElem?_modify, Option.map_eq_map, Option.map_map]
    refine congrArg (Option.map · _) (funext fun c => ?_)
    by_cases hn : e.1 = n <;> simp [hn]

/-- Different relations of a model have different names. -/
theorem not_same_of_ne {d : Dict RelationDefinition} (hd : d.Distinct)
    {e e' : Key × RelationDefinition} (he : e ∈ d) (he' : e' ∈ d) (hne : e ≠ e') :
    e.1.same e'.1 = false := by
  have hsymm : Std.Symm fun a b : Key × RelationDefinition => a.1.same b.1 = false :=
    ⟨fun _ _ h => by rwa [Key.same_comm]⟩
  exact List.Pairwise.forall hd he he' hne

/-- A relation that is bound, be it again and again, comes to be bound to what the registry has for
it. -/
theorem get?_bound_foldl_of_mem {d : Dict RelationDefinition} (hd : d.Distinct)
    {entries : List (Key × RelationDefinition)} (hentries : ∀ e ∈ entries, e ∈ d)
    {e : Key × RelationDefinition} (he : e ∈ entries) (c : RelationCatalog) :
    (entries.foldl r.bindFrom c).bound.get? e.1 = (r.answer e.2.target).or (c.bound.get? e.1) := by
  have hed : e ∈ d := hentries e he
  induction entries generalizing c with
  | nil => cases he
  | cons first rest ih =>
    obtain ⟨hfirst, hrest⟩ := List.forall_mem_cons.1 hentries
    rw [List.foldl_cons]
    by_cases hmem : e ∈ rest
    · rw [ih hrest hmem]
      by_cases hne : first = e
      · rw [hne, get?_bound_bindFrom_self, ← Option.or_assoc, Option.or_self]
      · rw [get?_bound_bindFrom_of_not_same (not_same_of_ne hd hfirst hed hne)]
    · obtain rfl : e = first := (List.mem_cons.1 he).resolve_right hmem
      have hlater : ∀ e' ∈ rest, e'.1.same e.1 = false := fun e' he' =>
        not_same_of_ne hd (hrest e' he') hed fun h => hmem (h ▸ he')
      rw [get?_bound_foldl_of_forall hlater, get?_bound_bindFrom_self]

/-- A relation points to what it did while neither it nor what it is bound to changes. -/
theorem related_congr {c c' : RelationCatalog} {key : Key} (hd : c'.definitions = c.definitions)
    (hbound : c'.bound.get? key = c.bound.get? key) (known : String → Bool) :
    c'.related known (.ofKey key) = c.related known (.ofKey key) := by
  simp only [RelationCatalog.related, RelationCatalog.get, Value.find_ofKey, hd, hbound]

/-- A catalog some of whose relations were bound. -/
theorem resolvedIn_foldl (hnames : (models.map Prod.fst).Nodup) {c : RelationCatalog}
    (hd : c.definitions.Distinct) {entries : List (Key × RelationDefinition)}
    (hentries : ∀ e ∈ entries, e ∈ c.definitions)
    (hanswers : ∀ e ∈ entries, ∀ name ∈ e.2.target.names, name ∈ models.map Prod.fst) :
    c.ResolvedIn models (· ∈ entries) (entries.foldl (ofModels models).bindFrom c) where
  definitions := definitions_foldl_bindFrom
  named key d target he hreached htarget := by
    obtain ⟨found, hfound, hfinds⟩ := related_of_registered hnames
      fun name hname => hanswers _ hreached name (by rw [htarget]; exact hname)
    refine ⟨found, hfinds, related_of_bound (d := d) ?_ ?_⟩
    · rw [definitions_foldl_bindFrom]
      exact hd.get?_of_mem he
    · rw [get?_bound_foldl_of_mem hd hentries hreached, htarget, answer, hfound]
      rfl
  deferred key d f he htarget known := by
    refine related_congr definitions_foldl_bindFrom ?_ known
    by_cases hreached : (key, d) ∈ entries
    · rw [get?_bound_foldl_of_mem hd hentries hreached, htarget]
      rfl
    · exact get?_bound_foldl_of_forall fun e' he' =>
        not_same_of_ne hd (hentries e' he') he fun h => hreached (h ▸ he')
  others key d he hreached known :=
    related_congr definitions_foldl_bindFrom (get?_bound_foldl_of_forall fun e' he' =>
      not_same_of_ne hd (hentries e' he') he fun h => hreached (h ▸ he')) known

/-- **A phase that comes to a fault stops there and takes nothing back.** A registry has models under
distinct names, and registering leaves it so. When registering finds that another model has the name
of a model, the models in front of that one are registered beside those that were. When resolving
finds a name that is not registered, the relations in front of the one that asks for it point to the
registered models of their names, if they are by name, and all others point to what they did. -/
theorem phases_stop_midway (held : List (String × Nat)) (catalogs : List RelationCatalog)
    (hnames : (held.map Prod.fst).Nodup) (hcatalogs : ∀ c ∈ catalogs, c.definitions.Distinct) :
    (∀ models, ∃ done rest kept, models = done ++ rest ∧ Joined held done kept ∧
      ((register models).perform (ofModels held)).2 = ofModels kept ∧
      Ends kept rest ((register models).perform (ofModels held)).1) ∧
    ∀ fault after, (ofModels held).resolve.perform catalogs = (.error fault, after) →
      ∃ done stop rest name, relations held catalogs = done ++ stop :: rest ∧
        fault = unregistered name ∧ name ∈ stop.2.2.target.names ∧ name ∉ held.map Prod.fst ∧
        ∀ (n : Nat) (c : RelationCatalog), catalogs[n]? = some c →
          ∃ c', after[n]? = some c' ∧ c.ResolvedIn held (fun e => (n, e) ∈ done) c' := by
  refine ⟨register_stops hnames, fun fault after h => ?_⟩
  obtain ⟨done, stop, rest, name, hrelations, hdone, hname, hmissing, hfault, hafter⟩ :=
    resolve_stops hnames h
  refine ⟨done, stop, rest, name, hrelations, hfault, hname, hmissing, fun n c hc => ?_⟩
  have hmem : ∀ e, e ∈ (done.filter (·.1 = n)).map Prod.snd ↔ (n, e) ∈ done := fun e => by
    simp [List.mem_map, List.mem_filter]
  have hown : ∀ e ∈ (done.filter (·.1 = n)).map Prod.snd, e ∈ c.definitions := by
    intro e he
    have hall : (n, e) ∈ relations held catalogs := by
      rw [hrelations]
      exact List.mem_append_left _ ((hmem e).1 he)
    obtain ⟨n', -, hn'⟩ := List.mem_flatMap.1 hall
    obtain ⟨e', he', hsame⟩ := List.mem_map.1 hn'
    cases hsame
    rwa [hc] at he'
  refine ⟨_, by rw [hafter, getElem?_foldl_bindAt, hc]; rfl, ?_⟩
  have hresolved := resolvedIn_foldl hnames (hcatalogs c (List.mem_of_getElem? hc)) hown
    fun e he => hdone (n, e) ((hmem e).1 he)
  exact funext (fun e => propext (hmem e)) ▸ hresolved

/-- A page that refers to pages and to authors. -/
def pageRelations : RelationCatalog where
  definitions := [("next", ⟨.text "data.next", .named (.one "page")⟩),
    ("authors", ⟨.text "data.authors", .named (.many ["author"])⟩)]

/-- A user is registered in front of a page whose name is taken, and pages come to refer to pages where
there are no authors. -/
theorem phases_stop_midway_sample :
    ((([("page", 0)] : List (String × Nat)).map Prod.fst).Nodup ∧
      ∀ c ∈ [pageRelations], c.definitions.Distinct) ∧
    (∃ fault kept, (register [("user", 1), ("page", 2)]).perform (ofModels [("page", 0)]) =
      (.error fault, ofModels kept) ∧ ("user", 1) ∈ kept) ∧
    ∃ fault after c, (ofModels [("page", 0)]).resolve.perform [pageRelations] =
      (.error fault, after) ∧ after[0]? = some c ∧
      (∃ found, (Target.one "page").Finds [("page", 0)] found ∧
        ∀ known, c.related known "next" = .ok found) ∧
      ∀ known, c.related known "authors" = pageRelations.related known "authors" := by
  have hnames : (([("page", 0)] : List (String × Nat)).map Prod.fst).Nodup := by decide
  have hcatalogs : ∀ c ∈ [pageRelations], c.definitions.Distinct := by decide
  obtain ⟨hregister, hresolve⟩ := phases_stop_midway [("page", 0)] [pageRelations] hnames hcatalogs
  refine ⟨⟨hnames, hcatalogs⟩, ?_, ?_⟩
  · obtain ⟨done, rest, kept, hmodels, hjoined, hafter, hends⟩ :=
      hregister [("user", 1), ("page", 2)]
    obtain ⟨name, model, others, other, rfl, -, htaken, -⟩ := hends
    refine ⟨_, kept, Prod.ext rfl hafter, (hjoined.mem_iff _).2 (Or.inr ?_)⟩
    rcases done with _ | ⟨m, done⟩
    · cases hmodels
      rw [hjoined.mem_iff] at htaken
      simp at htaken
    · obtain ⟨rfl, -⟩ := List.cons.inj hmodels
      exact List.mem_cons_self
  · obtain ⟨done, stop, rest, name, hrelations, -, hname, hmissing, hafter⟩ := hresolve _ _ rfl
    obtain ⟨c, hc, hresolved⟩ := hafter 0 pageRelations rfl
    refine ⟨_, _, c, rfl, hc, ?_, ?_⟩
    · refine hresolved.named _ _ _ List.mem_cons_self ?_ rfl
      rcases done with _ | ⟨e, done⟩
      · cases hrelations
        exact absurd hname hmissing
      · obtain ⟨rfl, -⟩ := List.cons.inj hrelations
        exact List.mem_cons_self
    · refine hresolved.others _ _ (List.mem_cons_of_mem _ List.mem_cons_self) fun hreached => ?_
      rcases done with _ | ⟨e, _ | ⟨e', done⟩⟩
      · cases hreached
      · obtain ⟨rfl, -⟩ := List.cons.inj hrelations
        simp at hreached
      · have hlength : 2 = (e :: e' :: done ++ stop :: rest).length :=
          congrArg List.length hrelations
        simp at hlength

/-- **Neither phase is undone**: a registration that comes to a fault may have registered a model, and
a resolving that does may have changed what a relation points to. -/
theorem phases_not_undone :
    (¬ ∀ (r : Registry) (models : List (String × Nat)) (fault : Fault) (after : Registry),
      (register models).perform r = (.error fault, after) → after.models = r.models) ∧
    ¬ ∀ (r : Registry) (catalogs : List RelationCatalog) (fault : Fault)
      (after : List RelationCatalog), r.resolve.perform catalogs = (.error fault, after) →
        ∀ n ∈ r.models.values, ∀ c c', catalogs[n]? = some c → after[n]? = some c' →
          ∀ key ∈ c.definitions.keys, ∀ known,
            c'.related known (.ofKey key) = c.related known (.ofKey key) := by
  constructor
  · intro h
    have hsame := h {} [("user", 1), ("user", 2)] _ _ rfl
    cases hsame
  · intro h
    have hsame := h (ofModels [("page", 0)]) [pageRelations] _ _ rfl 0 (by decide) _ _ rfl rfl
      "next" List.mem_cons_self fun _ => false
    cases hsame

end Registry

end DocMapper
