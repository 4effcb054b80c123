import Mathlib.Logic.Function.Iterate
import DocMapper.Proofs.Data.Outcome
import DocMapper.Proofs.Execution.Performing
import DocMapper.Proofs.Value.Likeness
import DocMapper.Relation.Registry
/-!
# Registering in any order

Models are registered first and refer to each other afterwards, so it does not matter in which order
they are registered: the relations are resolved just if every name that they ask for is registered,
and each of them then points to the models of its names (`Registry.resolve_in_any_order`). References
may run in circles; a function is not called before it is asked.

The step of the two nested loops is `Registry.bindFrom`. It changes one catalog, and all that it takes
from the registry is what this has under a name, so that steps can be taken in any order.
-/

namespace DocMapper

/-- The names that a target asks for. -/
def Target.names : Target → List String
  | .one name => [name]
  | .many names => names

/-- The names that have to be registered for a relation: none for a function. -/
def RelatedTarget.names : RelatedTarget → List String
  | .named target => target.names
  | .function _ => []

/-- What a target means among models under names: the model of its name, or the models of its names
in their order. -/
inductive Target.Finds (models : List (String × Nat)) : Target → Related → Prop
  | one {name : String} {number : Nat} (h : (name, number) ∈ models) :
    Finds models (.one name) (.model ⟨number, name⟩)
  | many {names : List String} {found : List Registered}
    (h : List.Forall₂ (fun name m => m.name = name ∧ (name, m.number) ∈ models) names found) :
    Finds models (.many names) (.models found)

/-- What becomes of the relations of a model among registered models. -/
structure RelationCatalog.Resolved (models : List (String × Nat)) (before after : RelationCatalog) :
    Prop where
  definitions : after.definitions = before.definitions
  /-- a relation by name points to what its target means -/
  named : ∀ key d target, (key, d) ∈ before.definitions → d.target = .named target →
    ∃ found, target.Finds models found ∧ ∀ known, after.related known (.ofKey key) = .ok found
  /-- nothing becomes known of a function before it is called -/
  deferred : ∀ key d f, (key, d) ∈ before.definitions → d.target = .function f →
    after.bound.get? key = before.bound.get? key ∧ (before.bound.get? key = none →
      ∀ known, after.related known (.ofKey key) = RelationCatalog.call known f)

/-- Relations as they are declared stand under distinct names. -/
theorem RelationCatalog.distinct_of_ofEntries {entries : List (Key × Value)} {c : RelationCatalog}
    (h : ofEntries entries = .ok c) : c.definitions.Distinct := by
  obtain ⟨definitions, hread, hc⟩ := Except.bind_eq_ok.1 h
  cases hc
  have hkeys : definitions.map Prod.fst = (Dict.ofEntries entries).map Prod.fst := by
    rw [← List.forall₂_eq_eq_eq, List.forall₂_map_left_iff, List.forall₂_map_right_iff]
    refine (Except.mapM_eq_ok.1 hread).flip.imp fun e' e he => ?_
    obtain ⟨d, -, hd⟩ := Except.bind_eq_ok.1 he
    cases hd
    rfl
  exact (Dict.distinct_ofEntries entries).of_keys_eq hkeys

namespace Registry

open Action

variable {models order : List (String × Nat)} {name : String}

/-! ## Registering -/

/-- The registry that has some models under their names. -/
def ofModels (models : List (String × Nat)) : Registry := ⟨models.map fun m => (.text m.1, m.2)⟩

theorem distinct_ofModels (h : (models.map Prod.fst).Nodup) : (ofModels models).models.Distinct := by
  refine List.pairwise_map.2 ((List.pairwise_map.1 h).imp fun {m n} hmn => ?_)
  rw [← Bool.not_eq_true]
  intro hsame
  exact hmn (Key.text.inj (Key.eq_text_of_same hsame))

theorem forall_not_same (h : name ∉ models.map Prod.fst) :
    ∀ e ∈ (ofModels models).models, e.1.same (.text name) = false := by
  rintro e he
  obtain ⟨m, hm, rfl⟩ := List.mem_map.1 he
  rw [← Bool.not_eq_true]
  intro hsame
  rw [← Key.text.inj (Key.eq_text_of_same hsame)] at h
  exact h (List.mem_map_of_mem hm)

theorem registerOne_ofModels {m : String × Nat} (h : m.1 ∉ models.map Prod.fst) :
    (ofModels models).registerOne m.1 m.2 = .ok (ofModels (models ++ [m])) := by
  have hnew := forall_not_same h
  rw [registerOne, Dict.get?_eq_none_of_forall hnew, Dict.put_of_forall hnew, ofModels, ofModels,
    List.map_append]
  rfl

/-- Models under distinct names are all registered, in their order. -/
theorem perform_register (h : ((models ++ order).map Prod.fst).Nodup) :
    (register order).perform (ofModels models) = (.ok ⟨⟩, ofModels (models ++ order)) := by
  induction order generalizing models with
  | nil => rw [List.append_nil]; rfl
  | cons m rest ih =>
    have happend : models ++ m :: rest = models ++ [m] ++ rest := by simp
    have hnew : m.1 ∉ models.map Prod.fst := by
      rw [List.map_append, List.map_cons] at h
      intro hmem
      exact (List.nodup_append.1 h).2.2 m.1 hmem m.1 List.mem_cons_self rfl
    rw [happend] at h ⊢
    have hone : (liftM ((ofModels models).registerOne m.1 m.2) : Action Registry Registry).perform
        (ofModels models) = (.ok (ofModels (models ++ [m])), ofModels models) := by
      rw [registerOne_ofModels hnew, perform_liftM]
    rw [register, perform_bind_ok (perform_get _), perform_bind_ok hone,
      perform_bind_ok (perform_set _ _)]
    exact ih h

/-! ## Looking up -/

/-- The fault of a name that is not registered. -/
def unregistered (name : String) : Fault :=
  .misconfigured "registry.get" (.text name) "no model registered under this name"

theorem find_text (r : Registry) (name : String) : r.find (.text name) =
    (r.models.get? name).elim (.error (unregistered name)) fun number => .ok ⟨number, name⟩ := by
  simp only [find, Value.find, Value.asKey, Value.toKey?, bind, Except.bind, Option.bind]
  cases r.models.get? name <;> rfl

theorem find_of_mem (hnames : (models.map Prod.fst).Nodup) {number : Nat}
    (h : (name, number) ∈ models) : (ofModels models).find (.text name) = .ok ⟨number, name⟩ := by
  have hentry : (Key.text name, number) ∈ (ofModels models).models :=
    List.mem_map.2 ⟨(name, number), h, rfl⟩
  rw [find_text, (distinct_ofModels hnames).get?_of_mem hentry]
  rfl

theorem find_of_not_mem (h : name ∉ models.map Prod.fst) :
    (ofModels models).find (.text name) = .error (unregistered name) := by
  rw [find_text, Dict.get?_eq_none_of_forall (forall_not_same h)]
  rfl

/-- A target whose names are registered finds what it means. -/
theorem related_of_registered (hnames : (models.map Prod.fst).Nodup) {target : Target}
    (h : ∀ name ∈ target.names, name ∈ models.map Prod.fst) :
    ∃ found, (ofModels models).related target = .ok found ∧ target.Finds models found := by
  have hfind : ∀ name ∈ target.names, ∃ m : Registered, (ofModels models).find (.text name) = .ok m ∧
      m.name = name ∧ (name, m.number) ∈ models := by
    intro name hname
    obtain ⟨⟨_, number⟩, hmem, rfl⟩ := List.mem_map.1 (h name hname)
    exact ⟨⟨number, _⟩, find_of_mem hnames hmem, rfl, hmem⟩
  cases target with
  | one name =>
    obtain ⟨⟨number, _⟩, hm, rfl, hmem⟩ := hfind name (List.mem_singleton.2 rfl)
    exact ⟨_, by rw [related, hm]; rfl, .one hmem⟩
  | many names =>
    obtain ⟨found, hfound⟩ := exists_forall₂ hfind
    have hall : names.mapM (fun name => (ofModels models).find (.text name)) = .ok found :=
      Except.mapM_eq_ok.2 (hfound.imp fun _ _ hm => hm.1)
    exact ⟨_, by rw [related, hall]; rfl, .many (hfound.imp fun _ _ hm => hm.2)⟩

/-- The names are looked up in their order, up to the first that is not registered. -/
theorem mapM_find_of_unregistered {names : List String}
    (h : ¬ ∀ name ∈ names, name ∈ models.map Prod.fst) :
    ∃ name ∈ names, name ∉ models.map Prod.fst ∧
      names.mapM (fun name => (ofModels models).find (.text name)) = .error (unregistered name) := by
  induction names with
  | nil => exact absurd (fun name hname => absurd hname List.not_mem_nil) h
  | cons name rest ih =>
    rw [List.mapM_cons]
    cases hfind : (ofModels models).models.get? name with
    | none =>
      have hname : name ∉ models.map Prod.fst := by
        intro hmem
        obtain ⟨m, hm, rfl⟩ := List.mem_map.1 hmem
        have hthere : (ofModels models).models.has (.text m.1) = true :=
          Dict.has_of_mem (List.mem_map_of_mem hm)
        rw [Dict.has, hfind] at hthere
        cases hthere
      exact ⟨name, List.mem_cons_self, hname, by rw [find_of_not_mem hname]; rfl⟩
    | some number =>
      have hname : name ∈ models.map Prod.fst := by
        obtain ⟨k, hmem, hk⟩ := Dict.exists_mem_of_get? hfind
        obtain ⟨m, hm, hentry⟩ := List.mem_map.1 hmem
        cases hentry
        rw [← Key.text.inj (Key.eq_text_of_same hk)]
        exact List.mem_map_of_mem hm
      obtain ⟨other, hother, hmissing, hall⟩ :=
        ih fun hrest => h (List.forall_mem_cons.2 ⟨hname, hrest⟩)
      exact ⟨other, List.mem_cons_of_mem _ hother, hmissing, by rw [find_text, hfind, hall]; rfl⟩

/-- A target with a name that is not registered is refused with such a name. -/
theorem related_of_unregistered {target : Target}
    (h : ¬ ∀ name ∈ target.names, name ∈ models.map Prod.fst) :
    ∃ name ∈ target.names, name ∉ models.map Prod.fst ∧
      (ofModels models).related target = .error (unregistered name) := by
  cases target with
  | one name =>
    have hname : name ∉ models.map Prod.fst := fun hmem =>
      h (by simpa only [Target.names, List.forall_mem_singleton] using hmem)
    exact ⟨name, List.mem_singleton.2 rfl, hname, by rw [related, find_of_not_mem hname]; rfl⟩
  | many names =>
    rw [Target.names] at h
    obtain ⟨name, hname, hmissing, hall⟩ := mapM_find_of_unregistered h
    exact ⟨name, hname, hmissing, by rw [related, hall]; rfl⟩

/-- What a target finds does not depend on the order of the models. -/
theorem related_perm (hnames : (models.map Prod.fst).Nodup) (h : order.Perm models) :
    (ofModels order).related = (ofModels models).related := by
  have hfind : ∀ name : String,
      (ofModels order).find (.text name) = (ofModels models).find (.text name) := by
    intro name
    have hentries : (ofModels models).models.Perm (ofModels order).models := h.symm.map _
    rw [find_text, find_text, (distinct_ofModels hnames).get?_perm hentries]
  funext target
  cases target with
  | one name => rw [related, related, hfind]
  | many names => simp only [related, hfind]

/-! ## Binding the relations of a model -/

/-- What a registry has for a relation, if its target is given by names that are all registered. -/
def answer (r : Registry) : RelatedTarget → Option Related
  | .named target => (r.related target).toOption
  | .function _ => none

/-- A catalog with one relation bound to what a registry has for it. -/
def bindFrom (r : Registry) (c : RelationCatalog) (e : Key × RelationDefinition) : RelationCatalog :=
  (r.answer e.2.target).elim c (c.bind e.1)

/-- A catalog with every relation so bound. -/
def bindAll (r : Registry) (c : RelationCatalog) : RelationCatalog := c.definitions.foldl r.bindFrom c

section Binding

variable {r : Registry} {c : RelationCatalog} {e : Key × RelationDefinition}
  {entries : List (Key × RelationDefinition)}

@[simp] theorem definitions_bindFrom : (r.bindFrom c e).definitions = c.definitions := by
  rw [bindFrom]
  cases r.answer e.2.target <;> rfl

@[simp] theorem definitions_foldl_bindFrom :
    (entries.foldl r.bindFrom c).definitions = c.definitions := by
  induction entries generalizing c with
  | nil => rfl
  | cons e rest ih => rw [List.foldl_cons, ih, definitions_bindFrom]

@[simp] theorem definitions_bindAll : (r.bindAll c).definitions = c.definitions :=
  definitions_foldl_bindFrom

theorem get?_bound_bindFrom_self :
    (r.bindFrom c e).bound.get? e.1 = (r.answer e.2.target).or (c.bound.get? e.1) := by
  rw [bindFrom]
  cases r.answer e.2.target with
  | none => rfl
  | some related => exact Dict.get?_put_self _ _ _

theorem get?_bound_bindFrom_of_not_same {key : Key} (h : e.1.same key = false) :
    (r.bindFrom c e).bound.get? key = c.bound.get? key := by
  rw [bindFrom]
  cases r.answer e.2.target with
  | none => rfl
  | some related => exact Dict.get?_put_of_not_same _ _ h

theorem get?_bound_foldl_of_forall {key : Key} (h : ∀ e ∈ entries, e.1.same key = false) :
    (entries.foldl r.bindFrom c).bound.get? key = c.bound.get? key := by
  induction entries generalizing c with
  | nil => rfl
  | cons e rest ih =>
    obtain ⟨he, hrest⟩ := List.forall_mem_cons.1 h
    rw [List.foldl_cons, ih hrest, get?_bound_bindFrom_of_not_same he]

/-- Each relation of several comes to be bound as if it were bound alone. -/
theorem get?_bound_foldl (hd : Dict.Distinct entries) (he : e ∈ entries) :
    (entries.foldl r.bindFrom c).bound.get? e.1 =
      (r.answer e.2.target).or (c.bound.get? e.1) := by
  induction entries generalizing c with
  | nil => cases he
  | cons first rest ih =>
    obtain ⟨hfirst, hrest⟩ := List.pairwise_cons.1 hd
    rw [List.foldl_cons]
    rcases List.mem_cons.1 he with rfl | hmem
    · have hlater : ∀ e' ∈ rest, e'.1.same e.1 = false := fun e' he' => by
        rw [Key.same_comm]
        exact hfirst e' he'
      rw [get?_bound_foldl_of_forall hlater, get?_bound_bindFrom_self]
    · rw [ih hrest hmem, get?_bound_bindFrom_of_not_same (hfirst e hmem)]

/-- Binding the relations of a catalog once more changes nothing of what they point to. -/
theorem bindAll_iterate (hd : c.definitions.Distinct) (times : Nat) :
    (r.bindAll^[times + 1] c).definitions = c.definitions ∧ ∀ e ∈ c.definitions,
      (r.bindAll^[times + 1] c).bound.get? e.1 = (r.answer e.2.target).or (c.bound.get? e.1) := by
  induction times with
  | zero => exact ⟨definitions_bindAll, fun e he => get?_bound_foldl hd he⟩
  | succ times ih =>
    obtain ⟨hdefinitions, hbound⟩ := ih
    rw [Function.iterate_succ_apply']
    refine ⟨definitions_bindAll.trans hdefinitions, fun e he => ?_⟩
    rw [bindAll, hdefinitions, get?_bound_foldl hd he, hbound e he, ← Option.or_assoc,
      Option.or_self]

end Binding

/-! ## The loops -/

variable {catalogs : List RelationCatalog}

/-- Some relation of the model of a number asks for a name. -/
def Asks (catalogs : List RelationCatalog) (n : Nat) (name : String) : Prop :=
  ∃ definitions, catalogs[n]?.map RelationCatalog.definitions = some definitions ∧
    ∃ e ∈ definitions, name ∈ e.2.target.names

theorem asks_iff {n : Nat} {c : RelationCatalog} (hc : catalogs[n]? = some c) :
    Asks catalogs n name ↔ ∃ e ∈ c.definitions, name ∈ e.2.target.names := by
  simp only [Asks, hc, Option.map_some, Option.some.injEq, exists_eq_left']

/-- Every name that a registered model asks for is registered. -/
def Covers (models : List (String × Nat)) (catalogs : List RelationCatalog) : Prop :=
  ∀ m ∈ models, ∀ name, Asks catalogs m.2 name → name ∈ models.map Prod.fst

theorem covers_perm (h : order.Perm models) : Covers order catalogs ↔ Covers models catalogs := by
  have hnames : ∀ name, name ∈ order.map Prod.fst ↔ name ∈ models.map Prod.fst := fun name =>
    (h.map _).mem_iff
  simp only [Covers, h.mem_iff, hnames]

theorem perform_resolveRelation (hnames : (models.map Prod.fst).Nodup) (n : Nat)
    (e : Key × RelationDefinition) (h : ∀ name ∈ e.2.target.names, name ∈ models.map Prod.fst)
    (catalogs : List RelationCatalog) :
    ((ofModels models).resolveRelation n e.1 e.2).perform catalogs =
      (.ok ⟨⟩, catalogs.modify n fun c => (ofModels models).bindFrom c e) := by
  cases htarget : e.2.target with
  | function f =>
    simp only [resolveRelation, htarget, bindFrom, answer, Option.elim_none]
    rw [perform_pure]
    exact Prod.ext rfl (List.modify_id n catalogs).symm
  | named target =>
    rw [htarget] at h
    obtain ⟨found, hfound, -⟩ := related_of_registered hnames h
    simp only [resolveRelation, htarget, bindFrom, answer, hfound, Except.toOption, Option.elim_some]
    rfl

theorem perform_resolveRelation_error (n : Nat) (e : Key × RelationDefinition)
    (h : ¬ ∀ name ∈ e.2.target.names, name ∈ models.map Prod.fst)
    (catalogs : List RelationCatalog) :
    ∃ name ∈ e.2.target.names, name ∉ models.map Prod.fst ∧
      ((ofModels models).resolveRelation n e.1 e.2).perform catalogs =
        (.error (unregistered name), catalogs) := by
  cases htarget : e.2.target with
  | function f =>
    rw [htarget] at h
    exact absurd (fun name hname => absurd hname List.not_mem_nil) h
  | named target =>
    rw [htarget] at h
    obtain ⟨name, hname, hmissing, hrelated⟩ := related_of_unregistered h
    refine ⟨name, hname, hmissing, ?_⟩
    simp only [resolveRelation, htarget, hrelated]
    rfl

/-- Steps on one catalog are one step on it. -/
theorem foldl_modify (f : RelationCatalog → Key × RelationDefinition → RelationCatalog)
    (entries : List (Key × RelationDefinition)) (n : Nat) (catalogs : List RelationCatalog) :
    entries.foldl (fun catalogs e => catalogs.modify n fun c => f c e) catalogs =
      catalogs.modify n fun c => entries.foldl f c := by
  induction entries generalizing catalogs with
  | nil => exact (List.modify_id n catalogs).symm
  | cons e rest ih => rw [List.foldl_cons, ih, List.modify_modify_eq]; rfl

/-- The relations of a model whose names are all registered are bound. -/
theorem perform_resolveModel (hnames : (models.map Prod.fst).Nodup) {n : Nat}
    (h : ∀ name, Asks catalogs n name → name ∈ models.map Prod.fst) :
    ((ofModels models).resolveModel n).perform catalogs =
      (.ok ⟨⟩, catalogs.modify n (ofModels models).bindAll) := by
  rw [resolveModel, perform_bind_ok (perform_get catalogs)]
  cases hc : catalogs[n]? with
  | none =>
    rw [List.modify_eq_self (List.getElem?_eq_none_iff.1 hc)]
    rfl
  | some c =>
    have hstep : ∀ e ∈ c.definitions, ∀ catalogs : List RelationCatalog, True →
        ((ofModels models).resolveRelation n e.1 e.2).perform catalogs =
          (.ok ⟨⟩, catalogs.modify n fun c => (ofModels models).bindFrom c e) ∧ True :=
      fun e he catalogs _ => ⟨perform_resolveRelation hnames n e
        (fun name hname => h name ((asks_iff hc).2 ⟨e, he, hname⟩)) catalogs, trivial⟩
    refine (perform_forM_ok hstep trivial).trans (Prod.ext rfl ?_)
    rw [foldl_modify]
    refine List.ext_getElem? fun i => ?_
    rw [List.getElem?_modify, List.getElem?_modify]
    split
    · rename_i hi
      rw [← hi, hc]
      rfl
    · rfl

/-- A model that asks for a name that is not registered is refused with such a name. -/
theorem perform_resolveModel_error (hnames : (models.map Prod.fst).Nodup) {n : Nat}
    (h : ¬ ∀ name, Asks catalogs n name → name ∈ models.map Prod.fst) :
    ∃ name, Asks catalogs n name ∧ name ∉ models.map Prod.fst ∧ ∃ after,
      ((ofModels models).resolveModel n).perform catalogs = (.error (unregistered name), after) := by
  cases hc : catalogs[n]? with
  | none =>
    refine absurd (fun name hasks => ?_) h
    obtain ⟨definitions, hdefinitions, -⟩ := hasks
    simp [hc] at hdefinitions
  | some c =>
    have hgood : ∀ e ∈ c.definitions, (∀ name ∈ e.2.target.names, name ∈ models.map Prod.fst) →
        ∀ catalogs : List RelationCatalog, True → ∃ after,
          ((ofModels models).resolveRelation n e.1 e.2).perform catalogs = (.ok ⟨⟩, after) ∧ True :=
      fun e _ he catalogs _ => ⟨_, perform_resolveRelation hnames n e he catalogs, trivial⟩
    have hbad : ∀ e ∈ c.definitions, (¬ ∀ name ∈ e.2.target.names, name ∈ models.map Prod.fst) →
        ∀ catalogs : List RelationCatalog, True → ∃ fault after,
          ((ofModels models).resolveRelation n e.1 e.2).perform catalogs = (.error fault, after) ∧
            ∃ name ∈ e.2.target.names, name ∉ models.map Prod.fst ∧ fault = unregistered name := by
      intro e _ hnot catalogs _
      obtain ⟨name, hname, hmissing, hrun⟩ := perform_resolveRelation_error n e hnot catalogs
      exact ⟨_, _, hrun, name, hname, hmissing, rfl⟩
    obtain ⟨e, he, _, after, hrun, name, hname, hmissing, rfl⟩ :=
      perform_forM_error hgood hbad trivial fun hall => h fun name hasks => by
        obtain ⟨e, he, hname⟩ := (asks_iff hc).1 hasks
        exact hall e he name hname
    refine ⟨name, (asks_iff hc).2 ⟨e, he, hname⟩, hmissing, after, ?_⟩
    rw [resolveModel, perform_bind_ok (perform_get catalogs)]
    simp only [hc]
    exact hrun

/-! ## All models -/

/-- The catalogs have the same relations. -/
def SameRelations (catalogs others : List RelationCatalog) : Prop :=
  ∀ n : Nat, catalogs[n]?.map RelationCatalog.definitions = others[n]?.map RelationCatalog.definitions

theorem SameRelations.asks {others : List RelationCatalog} (h : SameRelations catalogs others) :
    Asks catalogs = Asks others := by
  funext n name
  rw [Asks, Asks, h n]

theorem SameRelations.modify {others : List RelationCatalog} (h : SameRelations catalogs others)
    (r : Registry) (n : Nat) : SameRelations (catalogs.modify n r.bindAll) others := by
  intro i
  rw [← h i, List.getElem?_modify, Option.map_eq_map, Option.map_map]
  refine congrArg (Option.map · _) (funext fun c => ?_)
  by_cases hn : n = i <;> simp [hn]

/-- The catalogs after the relations of some models have been bound. -/
def bound (r : Registry) (numbers : List Nat) (catalogs : List RelationCatalog) :
    List RelationCatalog :=
  numbers.foldl (fun catalogs n => catalogs.modify n r.bindAll) catalogs

theorem getElem?_bound (r : Registry) (numbers : List Nat) (catalogs : List RelationCatalog)
    (i : Nat) : (r.bound numbers catalogs)[i]? = catalogs[i]?.map r.bindAll^[numbers.count i] := by
  induction numbers generalizing catalogs with
  | nil => simp [bound]
  | cons n rest ih =>
    rw [bound, List.foldl_cons, ← bound, ih, List.getElem?_modify, Option.map_eq_map,
      Option.map_map, List.count_cons]
    refine congrArg (Option.map · _) (funext fun c => ?_)
    by_cases hn : n = i <;> simp [hn]

/-- The order in which models are registered and bound does not show. -/
theorem bound_perm (hnames : (models.map Prod.fst).Nodup) (h : order.Perm models)
    (catalogs : List RelationCatalog) :
    (ofModels order).bound (order.map Prod.snd) catalogs =
      (ofModels models).bound (models.map Prod.snd) catalogs := by
  have hanswer : (ofModels order).answer = (ofModels models).answer := by
    funext target
    cases target with
    | named target => rw [answer, answer, related_perm hnames h]
    | function f => rfl
  have hbind : (ofModels order).bindAll = (ofModels models).bindAll := by
    funext c
    rw [bindAll, bindAll]
    refine congrArg (List.foldl · c c.definitions) ?_
    funext c e
    rw [bindFrom, bindFrom, hanswer]
  refine List.ext_getElem? fun i => ?_
  rw [getElem?_bound, getElem?_bound, hbind, (h.map Prod.snd).count_eq]

theorem values_ofModels : (ofModels models).models.values = models.map Prod.snd := by
  rw [ofModels, Dict.values, List.map_map]
  rfl

/-- Models whose names are all registered are bound one after another, whatever was bound before. -/
theorem perform_resolve (hnames : (models.map Prod.fst).Nodup) (h : Covers models catalogs) :
    (ofModels models).resolve.perform catalogs =
      (.ok ⟨⟩, (ofModels models).bound (models.map Prod.snd) catalogs) := by
  rw [resolve, values_ofModels]
  refine perform_forM_ok (P := fun s => SameRelations s catalogs) (fun n hn s hs => ?_) fun _ => rfl
  obtain ⟨m, hm, rfl⟩ := List.mem_map.1 hn
  exact ⟨perform_resolveModel hnames (hs.asks ▸ h m hm), hs.modify _ _⟩

/-- Where a name that is asked for is not registered, resolving comes to a fault with such a name. -/
theorem perform_resolve_error (hnames : (models.map Prod.fst).Nodup)
    (h : ¬ Covers models catalogs) :
    ∃ m ∈ models, ∃ name, Asks catalogs m.2 name ∧ name ∉ models.map Prod.fst ∧ ∃ after,
      (ofModels models).resolve.perform catalogs = (.error (unregistered name), after) := by
  have hgood : ∀ n ∈ models.map Prod.snd,
      (∀ name, Asks catalogs n name → name ∈ models.map Prod.fst) →
      ∀ s, SameRelations s catalogs → ∃ t,
        ((ofModels models).resolveModel n).perform s = (.ok ⟨⟩, t) ∧ SameRelations t catalogs :=
    fun n _ hn s hs => ⟨_, perform_resolveModel hnames (hs.asks ▸ hn), hs.modify _ n⟩
  have hbad : ∀ n ∈ models.map Prod.snd,
      (¬ ∀ name, Asks catalogs n name → name ∈ models.map Prod.fst) →
      ∀ s, SameRelations s catalogs → ∃ fault t,
        ((ofModels models).resolveModel n).perform s = (.error fault, t) ∧
          ∃ name, Asks catalogs n name ∧ name ∉ models.map Prod.fst ∧ fault = unregistered name := by
    intro n _ hn s hs
    rw [← hs.asks] at hn ⊢
    obtain ⟨name, hasks, hmissing, t, hrun⟩ := perform_resolveModel_error hnames hn
    exact ⟨_, t, hrun, name, hasks, hmissing, rfl⟩
  obtain ⟨n, hn, _, after, hrun, name, hasks, hmissing, rfl⟩ :=
    perform_forM_error hgood hbad (fun _ => rfl) fun hall => h fun m hm =>
      hall m.2 (List.mem_map_of_mem hm)
  obtain ⟨m, hm, rfl⟩ := List.mem_map.1 hn
  exact ⟨m, hm, name, hasks, hmissing, after, by rw [resolve, values_ofModels, hrun]⟩

/-! ## What the relations point to -/

/-- A relation that is bound points to what it is bound to. -/
theorem related_of_bound {c : RelationCatalog} {key : Key} {d : RelationDefinition} {found : Related}
    (hd : c.definitions.get? key = some d) (hbound : c.bound.get? key = some found)
    (known : String → Bool) : c.related known (.ofKey key) = .ok found := by
  rw [RelationCatalog.related, RelationCatalog.get, Value.find_ofKey, Value.find_ofKey, hd, hbound]
  rfl

/-- A function that is not bound is called. -/
theorem related_of_function {c : RelationCatalog} {key : Key} {d : RelationDefinition} {f : Value}
    (hd : c.definitions.get? key = some d) (htarget : d.target = .function f)
    (hbound : c.bound.get? key = none) (known : String → Bool) :
    c.related known (.ofKey key) = RelationCatalog.call known f := by
  rw [RelationCatalog.related, RelationCatalog.get, Value.find_ofKey, Value.find_ofKey, hd, hbound]
  simp only [bind, Except.bind, pure, Except.pure, htarget]

theorem resolved_bindAll_iterate (hnames : (models.map Prod.fst).Nodup) {c : RelationCatalog}
    (hd : c.definitions.Distinct)
    (hasks : ∀ e ∈ c.definitions, ∀ name ∈ e.2.target.names, name ∈ models.map Prod.fst)
    (times : Nat) : c.Resolved models ((ofModels models).bindAll^[times + 1] c) := by
  obtain ⟨hdefinitions, hbound⟩ := bindAll_iterate (r := ofModels models) hd times
  refine ⟨hdefinitions, ?_, ?_⟩
  · intro key d target he htarget
    obtain ⟨found, hfound, hfinds⟩ := related_of_registered hnames
      fun name hname => hasks _ he name (by rw [htarget]; exact hname)
    refine ⟨found, hfinds, related_of_bound (by rw [hdefinitions]; exact hd.get?_of_mem he) ?_⟩
    rw [hbound _ he, htarget, answer, hfound]
    rfl
  · intro key d f he htarget
    have hsame : ((ofModels models).bindAll^[times + 1] c).bound.get? key = c.bound.get? key := by
      rw [hbound _ he, htarget]
      rfl
    refine ⟨hsame, fun hnone => related_of_function ?_ htarget (hsame.trans hnone)⟩
    rw [hdefinitions]
    exact hd.get?_of_mem he

/-- **Registration order does not matter.** Models under distinct names are registered in any order.
Their relations are then resolved just if every name that they ask for is registered; otherwise the
fault names one that is not. Each relation comes to point to the registered models of its names, the
same ones after every order, and a function is not called. -/
theorem resolve_in_any_order (models : List (String × Nat)) (catalogs : List RelationCatalog)
    (hnames : (models.map Prod.fst).Nodup) (hcatalogs : ∀ c ∈ catalogs, c.definitions.Distinct) :
    ∃ after : List RelationCatalog,
      (∀ order : List (String × Nat), order.Perm models →
        ∃ r, (register order).perform {} = (.ok ⟨⟩, r) ∧
          ((r.resolve.perform catalogs).1 = .ok ⟨⟩ ↔ Covers models catalogs) ∧
          (Covers models catalogs → (r.resolve.perform catalogs).2 = after) ∧
          ∀ fault, (r.resolve.perform catalogs).1 = .error fault →
            ∃ m ∈ models, ∃ name, Asks catalogs m.2 name ∧ name ∉ models.map Prod.fst ∧
              fault = unregistered name) ∧
      (Covers models catalogs →
        (∀ m ∈ models, ∀ c, catalogs[m.2]? = some c →
          ∃ c', after[m.2]? = some c' ∧ c.Resolved models c') ∧
        ∀ n : Nat, n ∉ models.map Prod.snd → after[n]? = catalogs[n]?) := by
  refine ⟨(ofModels models).bound (models.map Prod.snd) catalogs, fun order horder => ?_,
    fun hcovers => ⟨fun m hm c hc => ?_, fun n hn => ?_⟩⟩
  · have hordernames : (order.map Prod.fst).Nodup := (horder.map _).nodup_iff.2 hnames
    have hregister : (register order).perform (ofModels []) = (.ok ⟨⟩, ofModels order) :=
      perform_register hordernames
    have hsame : Covers order catalogs ↔ Covers models catalogs := covers_perm horder
    refine ⟨ofModels order, hregister, ?_⟩
    by_cases hcovers : Covers models catalogs
    · rw [perform_resolve hordernames (hsame.2 hcovers)]
      refine ⟨⟨fun _ => hcovers, fun _ => rfl⟩, fun _ => ?_, by rintro _ ⟨⟩⟩
      exact bound_perm hnames horder catalogs
    · obtain ⟨m, hm, name, hasks, hmissing, t, hrun⟩ :=
        perform_resolve_error hordernames (mt hsame.1 hcovers)
      rw [hrun]
      refine ⟨⟨by rintro ⟨⟩, fun h => absurd h hcovers⟩, fun h => absurd h hcovers, ?_⟩
      rintro _ ⟨⟩
      exact ⟨m, horder.mem_iff.1 hm, name, hasks,
        fun hmem => hmissing ((horder.map _).mem_iff.2 hmem), rfl⟩
  · have hcount : (models.map Prod.snd).count m.2 ≠ 0 :=
      Nat.ne_of_gt (List.count_pos_iff.2 (List.mem_map_of_mem hm))
    obtain ⟨times, htimes⟩ := Nat.exists_eq_succ_of_ne_zero hcount
    refine ⟨_, by rw [getElem?_bound, hc, htimes]; rfl, ?_⟩
    exact resolved_bindAll_iterate hnames (hcatalogs c (List.mem_of_getElem? hc))
      (fun e he name hname => hcovers m hm name ((asks_iff hc).2 ⟨e, he, hname⟩)) times
  · rw [getElem?_bound, List.count_eq_zero.2 hn]
    simp

/-- An author with posts, with peers that are authors or posts, and with what a function gives. -/
def authorRelations : RelationCatalog where
  definitions := [("posts", ⟨.text "data.posts", .named (.one "post")⟩),
    ("peers", ⟨.text "data.peers", .named (.many ["author", "post"])⟩),
    ("later", ⟨.text "data.later", .function (.thunk (.one "page"))⟩)]

/-- A post with an author. -/
def postRelations : RelationCatalog where
  definitions := [("author", ⟨.text "data.author", .named (.one "author")⟩)]

/-- Authors and posts refer to each other, and authors to authors. -/
theorem resolve_in_any_order_circle :
    ((([("author", 0), ("post", 1)] : List (String × Nat)).map Prod.fst).Nodup ∧
      ∀ c ∈ [authorRelations, postRelations], c.definitions.Distinct) ∧
    ∃ after : List RelationCatalog,
      (∀ order ∈ [[("author", 0), ("post", 1)], [("post", 1), ("author", 0)]],
        ∃ r, (register order).perform {} = (.ok ⟨⟩, r) ∧
          (r.resolve.perform [authorRelations, postRelations]).1 = .ok ⟨⟩ ∧
          (r.resolve.perform [authorRelations, postRelations]).2 = after) ∧
      (∃ c, after[0]? = some c ∧ authorRelations.Resolved [("author", 0), ("post", 1)] c) ∧
      ∃ c, after[1]? = some c ∧ postRelations.Resolved [("author", 0), ("post", 1)] c := by
  have hnames : (([("author", 0), ("post", 1)] : List (String × Nat)).map Prod.fst).Nodup := by decide
  have hcatalogs : ∀ c ∈ [authorRelations, postRelations], c.definitions.Distinct := by decide
  have hasks : ∀ c ∈ [authorRelations, postRelations], ∀ e ∈ c.definitions,
      ∀ name ∈ e.2.target.names, name ∈ ["author", "post"] := by decide
  have hcovers : Covers [("author", 0), ("post", 1)] [authorRelations, postRelations] :=
    fun _ _ name ⟨_, hdefinitions, e, he, hname⟩ => by
      obtain ⟨c, hc, rfl⟩ := Option.map_eq_some_iff.1 hdefinitions
      exact hasks c (List.mem_of_getElem? hc) e he name hname
  obtain ⟨after, horders, hafter⟩ := resolve_in_any_order [("author", 0), ("post", 1)]
    [authorRelations, postRelations] hnames hcatalogs
  refine ⟨⟨hnames, hcatalogs⟩, after, fun order horder => ?_,
    (hafter hcovers).1 ("author", 0) (by decide) _ rfl, (hafter hcovers).1 ("post", 1) (by decide) _ rfl⟩
  have hperm : order.Perm [("author", 0), ("post", 1)] := by
    rcases List.mem_cons.1 horder with rfl | horder
    · exact .refl _
    · rw [List.mem_singleton.1 horder]
      exact .swap _ _ _
  obtain ⟨r, hregister, hok, hstate, -⟩ := horders order hperm
  exact ⟨r, hregister, hok.2 hcovers, hstate hcovers⟩

end Registry

end DocMapper
