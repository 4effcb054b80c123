import DocMapper.Proofs.Wire.Trees
import DocMapper.Value.Display
/-!
# Wire forms tell values apart

Queries are sent as objects of their arguments and literal dictionaries under a key of their own, so
that a wire form has one reading. `Value.wire_unambiguous`: trees of queries and plain data with the same
wire form, whatever the order of members, are the same tree up to the order of the entries of
dictionaries and parameters.

What a form is a form of is told by its label, the first of the known names that a member has
(`Wire.label`). Forms that are alike have one label, and below one label the arguments are compared: the
forms of trees are alike just if the trees are (`Value.toWire_like_iff`).
-/

namespace DocMapper

open Dict (SameKeys)

/-! ## The same JSON -/

namespace Wire

/-- The same JSON, whatever the order of members. -/
inductive Like : Wire → Wire → Prop
  | refl (w : Wire) : Like w w
  | array {vs ws : List Wire} (hlength : vs.length = ws.length)
    (h : ∀ v w, (v, w) ∈ vs.zip ws → Like v w) : Like (.array vs) (.array ws)
  | object {vs ws : Dict Wire} (hkeys : SameKeys vs ws)
    (h : ∀ key v w, vs.get? key = some v → ws.get? key = some w → Like v w) :
    Like (.object vs) (.object ws)

/-- The order of members does not count. -/
theorem Like.of_perm {vs ws : Dict Wire} (hdistinct : Dict.Distinct vs) (h : vs.Perm ws) :
    Like (.object vs) (.object ws) := by
  refine .object (fun key => ?_) fun key v w hv hw => ?_
  · rw [Dict.has, Dict.has, hdistinct.get?_perm h]
  · rw [hdistinct.get?_perm h, hw] at hv
    cases hv
    exact .refl v

theorem Like.of_object {vs ws : Dict Wire} (h : Like (.object vs) (.object ws)) :
    SameKeys vs ws ∧ ∀ key v w, vs.get? key = some v → ws.get? key = some w → Like v w := by
  cases h with
  | refl =>
    refine ⟨.of_keys_eq rfl, fun key v w hv hw => ?_⟩
    cases hv.symm.trans hw
    exact .refl v
  | object hkeys h => exact ⟨hkeys, h⟩

theorem like_text {s t : String} : Like (.text s) (.text t) ↔ s = t := by
  constructor
  · intro h
    cases h
    rfl
  · rintro rfl
    exact .refl _

/-- Arrays of forms are alike element by element. -/
theorem like_array_map {α : Type} {f : α → Wire} {as bs : List α} :
    Like (.array (as.map f)) (.array (bs.map f)) ↔
      as.length = bs.length ∧ ∀ a b, (a, b) ∈ as.zip bs → (f a).Like (f b) := by
  have harray : ∀ {vs ws : List Wire}, Like (.array vs) (.array ws) ↔ List.Forall₂ Like vs ws := by
    intro vs ws
    constructor
    · intro h
      cases h with
      | refl => exact List.forall₂_same.2 fun w _ => .refl w
      | array hlength h => exact List.forall₂_iff_zip.2 ⟨hlength, fun hmem => h _ _ hmem⟩
    · intro h
      obtain ⟨hlength, h⟩ := List.forall₂_iff_zip.1 h
      exact .array hlength fun v w hmem => h hmem
  rw [harray, List.forall₂_map_left_iff, List.forall₂_map_right_iff, List.forall₂_iff_zip]

/-- Objects of forms are alike key by key. -/
theorem like_object_map {α : Type} {f : α → Wire} {as bs : Dict α} :
    Like (.object (as.map fun e => (e.1, f e.2))) (.object (bs.map fun e => (e.1, f e.2))) ↔
      SameKeys as bs ∧
        ∀ key a b, as.get? key = some a → bs.get? key = some b → (f a).Like (f b) := by
  constructor
  · intro h
    obtain ⟨hsame, hforms⟩ := h.of_object
    refine ⟨fun key => ?_, fun key a b ha hb => hforms key _ _ ?_ ?_⟩
    · have hkey := hsame key
      rwa [Dict.has_map, Dict.has_map] at hkey
    · rw [Dict.get?_map, ha, Option.map_some]
    · rw [Dict.get?_map, hb, Option.map_some]
  · rintro ⟨hsame, hforms⟩
    refine .object (fun key => ?_) fun key v w hv hw => ?_
    · rw [Dict.has_map, Dict.has_map]
      exact hsame key
    · rw [Dict.get?_map] at hv hw
      obtain ⟨a, ha, rfl⟩ := Option.map_eq_some_iff.1 hv
      obtain ⟨b, hb, rfl⟩ := Option.map_eq_some_iff.1 hw
      exact hforms key a b ha hb

/-- Objects of one member have it under the same name. -/
theorem like_member {k l : Key} {v w : Wire} (hk : k.isText = true) :
    Like (.object [(k, v)]) (.object [(l, w)]) ↔ k = l ∧ Like v w := by
  constructor
  · intro h
    obtain ⟨hkeys, hforms⟩ := h.of_object
    cases k with
    | text s =>
      have hkey := hkeys (.text s)
      by_cases hl : l.same (.text s) = true
      · cases Key.eq_text_of_same hl
        exact ⟨rfl, hforms s v w (by simp [Dict.get?]) (by simp [Dict.get?])⟩
      · simp [Dict.has, Dict.get?, hl] at hkey
    | _ => cases hk
  · rintro ⟨rfl, h⟩
    exact .object (.of_keys_eq rfl) (Dict.forall_get?_cons h (by rintro _ _ _ ⟨⟩) _)

theorem like_single {name : String} {v w : Wire} :
    Like (.single name v) (.single name w) ↔ Like v w :=
  (like_member rfl).trans (and_iff_right rfl)

/-- Objects of the same two members are alike in both. -/
theorem like_pair {k l : String} (hne : k ≠ l) {v w v' w' : Wire} :
    Like (fields [(k, v), (l, w)]) (fields [(k, v'), (l, w')]) ↔ Like v v' ∧ Like w w' := by
  constructor
  · intro h
    obtain ⟨-, hforms⟩ := h.of_object
    exact ⟨hforms k v v' (by simp [Dict.get?]) (by simp [Dict.get?]),
      hforms l w w' (by simp [Dict.get?, hne]) (by simp [Dict.get?, hne])⟩
  · rintro ⟨hv, hw⟩
    exact .object (.of_keys_eq rfl) (Dict.forall_get?_cons hv
      (Dict.forall_get?_cons hw (by rintro _ _ _ ⟨⟩) _) _)

/-- The names that forms of data have for members. -/
def dataNames : List String := ["object", "@ref", "@ts", "@date"]

/-- What a form is a form of: the first of the known names that a member has. -/
def label : Wire → Option String
  | .object members => (dataNames ++ Query.builders).find? fun name => Dict.has members name
  | _ => none

theorem Like.label_eq {v w : Wire} (h : v.Like w) : v.label = w.label := by
  cases h with
  | refl => rfl
  | array => rfl
  | @object vs ws hkeys =>
    have hhas : (fun name : String => Dict.has vs name) = fun name : String => Dict.has ws name :=
      funext fun name => hkeys name
    rw [label, label, hhas]

end Wire

/-! ## Wire forms -/

theorem Value.toWireList_eq (items : List Value) : toWireList items = items.map toWire := by
  induction items with
  | nil => rfl
  | cons v rest ih => rw [toWireList, ih, List.map_cons]

theorem Value.toWireBindings_eq (bindings : Dict Value) :
    toWireBindings bindings = bindings.map fun e => .object [(e.1, e.2.toWire)] := by
  induction bindings with
  | nil => rfl
  | cons e rest ih => rw [toWireBindings, ih, List.map_cons]

theorem Value.toWireEntries_eq {entries : Dict Value} (h : entries.IsNamed) :
    toWireEntries entries = entries.map fun e => (e.1, e.2.toWire) := by
  induction entries with
  | nil => rfl
  | cons e rest ih =>
    obtain ⟨hkey, hrest⟩ := List.forall_mem_cons.1 h
    obtain ⟨k, v⟩ := e
    cases k with
    | text s => rw [toWireEntries, ih hrest, List.map_cons, Key.toText]
    | _ => cases hkey

theorem Value.toWire_dict {entries : Dict Value} (hdistinct : Dict.Distinct entries)
    (h : entries.IsNamed) : (Value.dict entries).toWire =
      .single "object" (.object (entries.map fun e => (e.1, e.2.toWire))) := by
  rw [toWire, toWireEntries_eq h, Dict.ofEntries_of_distinct (hdistinct.map _)]

theorem Value.toWireOption_eq (name : String) (v : Option Value) :
    toWireOption name v = (Query.argument name v).map fun e => (e.1, e.2.toWire) := by
  cases v <;> rfl

theorem Value.rawList_eq {path : List Value} (h : ∀ step ∈ path, step.IsStep) :
    rawList path = toWireList path := by
  induction path with
  | nil => rfl
  | cons step rest ih =>
    obtain ⟨hstep, hrest⟩ := List.forall_mem_cons.1 h
    rw [rawList, toWireList, ih hrest]
    cases hstep <;> rfl

/-- **A query is sent as the object of its arguments**, but for the bindings of a `let`. -/
theorem Query.toWire_eq {q : Query} (hlet : q.operation ≠ "let") (hsteps : q.HasSteps) :
    q.toWire = .object (q.arguments.map fun e => (e.1, e.2.toWire)) := by
  cases q with
  | letIn => exact absurd rfl hlet
  | select path source fallback =>
    simp [toWire, arguments, Value.toWireOption_eq, Value.rawList_eq hsteps, Value.toWire]
  | collection name scope => simp [toWire, arguments, Value.toWireOption_eq]
  | index name scope => simp [toWire, arguments, Value.toWireOption_eq]
  | matching source terms => simp [toWire, arguments, Value.toWireOption_eq]
  | paginate source size after before => simp [toWire, arguments, Value.toWireOption_eq]
  | _ => simp [toWire, arguments, Wire.fields, Value.toWire]

/-! ## What a value is sent as -/

/-- What a value is, if its wire form shows it by a name. -/
def Value.label : Value → Option String
  | .dict _ => some "object"
  | .ref _ => some "@ref"
  | .timestamp _ => some "@ts"
  | .date _ => some "@date"
  | .query q => some q.operation
  | _ => none

/-- The operation is the first name that an argument has. -/
theorem Query.find?_arguments (q : Query) :
    (Wire.dataNames ++ builders).find? (fun name : String => Dict.has q.arguments name) =
      some q.operation := by
  cases q with
  | select path source fallback => cases fallback <;> rfl
  | collection name scope => cases scope <;> rfl
  | index name scope => cases scope <;> rfl
  | matching source terms => cases terms <;> rfl
  | paginate source size after before =>
    cases size <;> cases after <;> cases before <;> rfl
  | _ => rfl

theorem Query.operation_ne (q : Query) {name : String} (h : name ∈ Wire.dataNames) :
    name ≠ q.operation := by
  rintro rfl
  cases q <;> simp [operation, Wire.dataNames] at h

theorem Value.IsTree.label_toWire {v : Value} (h : v.IsTree) : v.toWire.label = v.label := by
  cases h with
  | letIn => rfl
  | @query q hlet hsteps h =>
    rw [toWire, Query.toWire_eq hlet hsteps, Wire.label]
    simp only [Dict.has_map]
    rw [Query.find?_arguments, label]
  | _ => rfl

theorem Value.IsTree.label_eq {a b : Value} (ha : a.IsTree) (hb : b.IsTree)
    (h : a.toWire.Like b.toWire) : a.label = b.label := by
  rw [← ha.label_toWire, ← hb.label_toWire, h.label_eq]

/-! ## References -/

/-- The member that an optional part of a reference adds. -/
def Ref.partMember (name : String) : Option Ref → Dict Wire
  | none => []
  | some r => [(.text name, .single "@ref" r.toWire)]

theorem Ref.toWire_eq (r : Ref) : r.toWire = .object (("id", .text r.id) ::
    (partMember "collection" r.collection ++ partMember "database" r.database)) := by
  obtain ⟨id, collection, database⟩ := r
  cases collection <;> cases database <;> rw [toWire] <;> rfl

theorem Ref.get?_collection (id : String) (c d : Option Ref) :
    Dict.get? (("id", .text id) :: (partMember "collection" c ++ partMember "database" d))
      "collection" = c.map fun r => .single "@ref" r.toWire := by
  cases c <;> cases d <;> rfl

theorem Ref.get?_database (id : String) (c d : Option Ref) :
    Dict.get? (("id", .text id) :: (partMember "collection" c ++ partMember "database" d))
      "database" = d.map fun r => .single "@ref" r.toWire := by
  cases c <;> cases d <;> rfl

/-- A part is told by its form, if the reference in it is. -/
theorem Ref.eq_of_part {R : Wire → Wire → Prop} {vs ws : Dict Wire} (hkeys : SameKeys vs ws)
    (hforms : ∀ key v w, vs.get? key = some v → ws.get? key = some w → R v w) {name : Key}
    {p q : Option Ref} (hp : vs.get? name = p.map fun r => .single "@ref" r.toWire)
    (hq : ws.get? name = q.map fun r => .single "@ref" r.toWire)
    (ih : ∀ r s, p = some r → R (.single "@ref" r.toWire) (.single "@ref" s.toWire) → r = s) :
    p = q := by
  have hkey := hkeys name
  rw [Dict.has, Dict.has, hp, hq, Option.isSome_map, Option.isSome_map] at hkey
  cases p with
  | none => exact (Option.isSome_eq_false_iff.1 hkey.symm |> Option.isNone_iff_eq_none.1).symm
  | some r =>
    obtain ⟨s, rfl⟩ := Option.isSome_iff_exists.1 hkey.symm
    rw [ih r s rfl (hforms name _ _ hp hq)]

/-- **The wire form of a reference tells the reference.** -/
theorem Ref.eq_of_toWire : (r s : Ref) → r.toWire.Like s.toWire → r = s
  | ⟨id, c, d⟩, ⟨id', c', d'⟩, h => by
    rw [toWire_eq, toWire_eq] at h
    obtain ⟨hkeys, hforms⟩ := h.of_object
    have hid : id = id' := Wire.like_text.1 (hforms "id" (.text id) (.text id') rfl rfl)
    have hc : c = c' := eq_of_part hkeys hforms (get?_collection id c d)
      (get?_collection id' c' d') fun r s _ hlike => eq_of_toWire r s (Wire.like_single.1 hlike)
    have hd : d = d' := eq_of_part hkeys hforms (get?_database id c d)
      (get?_database id' c' d') fun r s _ hlike => eq_of_toWire r s (Wire.like_single.1 hlike)
    rw [hid, hc, hd]
termination_by r => sizeOf r
decreasing_by all_goals subst_vars; simp only [mk.sizeOf_spec, Option.some.sizeOf_spec]; omega

/-! ## Trees of one wire form -/

namespace Value

theorem like_list {as bs : List Value} : (list as).Like (list bs) ↔
    as.length = bs.length ∧ ∀ a b, (a, b) ∈ as.zip bs → a.Like b := by
  constructor
  · intro h
    cases h with
    | refl =>
      obtain ⟨hlength, h⟩ := List.forall₂_iff_zip.1
        (List.forall₂_same.2 fun a (_ : a ∈ as) => Like.refl a)
      exact ⟨hlength, fun a b hmem => h hmem⟩
    | list hlength h => exact ⟨hlength, h⟩
  · rintro ⟨hlength, h⟩
    exact .list hlength h

theorem like_dict {as bs : Dict Value} : (dict as).Like (dict bs) ↔
    SameKeys as bs ∧ ∀ key a b, as.get? key = some a → bs.get? key = some b → a.Like b := by
  constructor
  · intro h
    cases h with
    | refl =>
      refine ⟨.of_keys_eq rfl, fun key a b ha hb => ?_⟩
      cases ha.symm.trans hb
      exact .refl a
    | dict hkeys h => exact ⟨hkeys, h⟩
  · rintro ⟨hkeys, h⟩
    exact .dict hkeys h

theorem like_letIn {as bs : Dict Value} {x y : Value} :
    (query (.letIn as x)).Like (query (.letIn bs y)) ↔
      (as.keys = bs.keys ∧ ∀ a b, (a, b) ∈ as.zip bs → a.2.Like b.2) ∧ x.Like y := by
  constructor
  · intro h
    cases h with
    | refl =>
      obtain ⟨-, h⟩ := List.forall₂_iff_zip.1 (List.forall₂_same.2 fun (a : Key × Value) _ => rfl)
      refine ⟨⟨rfl, fun a b hmem => ?_⟩, .refl x⟩
      cases h hmem
      exact .refl _
    | letIn hkeys h hbody => exact ⟨⟨hkeys, h⟩, hbody⟩
    | query hlet => exact absurd rfl hlet
  · rintro ⟨⟨hkeys, h⟩, hbody⟩
    exact .letIn hkeys h hbody

theorem like_query {q r : Query} (hlet : q.operation ≠ "let")
    (hoperation : q.operation = r.operation) : (query q).Like (query r) ↔
      SameKeys q.arguments r.arguments ∧ ∀ name a b, q.arguments.get? name = some a →
        r.arguments.get? name = some b → a.Like b := by
  constructor
  · intro h
    cases h with
    | refl =>
      refine ⟨.of_keys_eq rfl, fun key a b ha hb => ?_⟩
      cases ha.symm.trans hb
      exact .refl a
    | letIn => exact absurd rfl hlet
    | query _ _ hkeys h => exact ⟨hkeys, h⟩
  · rintro ⟨hkeys, h⟩
    exact .query hlet hoperation hkeys h

theorem Like.label_eq {a b : Value} (h : a.Like b) : a.label = b.label := by
  cases h with
  | query _ hoperation => exact congrArg some hoperation
  | _ => rfl

/-- Only below one label are there trees and forms to compare. -/
theorem IsTree.like_iff_of_label {a b : Value} (ha : a.IsTree) (hb : b.IsTree)
    (h : a.label = b.label → (a.toWire.Like b.toWire ↔ a.Like b)) :
    a.toWire.Like b.toWire ↔ a.Like b :=
  ⟨fun hwire => (h (ha.label_eq hb hwire)).1 hwire, fun hlike => (h hlike.label_eq).2 hlike⟩

/-- **Trees have one wire form just if they are alike.** -/
theorem toWire_like_iff {a b : Value} (ha : a.IsTree) (hb : b.IsTree) :
    a.toWire.Like b.toWire ↔ a.Like b := by
  induction ha generalizing b with
  | null | bool | int | text =>
    refine IsTree.like_iff_of_label (by constructor) hb fun hlabel => ?_
    cases hb with
    | null | bool | int | text | list => constructor <;> intro h <;> cases h <;> exact .refl _
    | _ => cases hlabel
  | timestamp t =>
    refine IsTree.like_iff_of_label (.timestamp t) hb fun hlabel => ?_
    cases hb with
    | timestamp s =>
      rw [toWire, toWire, Wire.like_single, Wire.like_text]
      refine ⟨.timestamp, fun h => ?_⟩
      cases h with
      | refl => rfl
      | timestamp h => exact h
    | query => exact absurd (Option.some.inj hlabel) (Query.operation_ne _ (by decide))
    | _ => simp [label, Query.operation] at hlabel
  | date d =>
    refine IsTree.like_iff_of_label (.date d) hb fun hlabel => ?_
    cases hb with
    | date e =>
      rw [toWire, toWire, Wire.like_single, Wire.like_text, Date.iso_inj]
      constructor <;> intro h <;> cases h
      · exact .refl _
      · rfl
    | query => exact absurd (Option.some.inj hlabel) (Query.operation_ne _ (by decide))
    | _ => simp [label, Query.operation] at hlabel
  | ref r =>
    refine IsTree.like_iff_of_label (.ref r) hb fun hlabel => ?_
    cases hb with
    | ref s =>
      rw [toWire, toWire, Wire.like_single]
      constructor <;> intro h
      · cases Ref.eq_of_toWire r s h
        exact .refl _
      · cases h
        exact .refl _
    | query => exact absurd (Option.some.inj hlabel) (Query.operation_ne _ (by decide))
    | _ => simp [label, Query.operation] at hlabel
  | @list as hitems ih =>
    refine IsTree.like_iff_of_label (.list hitems) hb fun hlabel => ?_
    cases hb with
    | @list bs hitems' =>
      rw [toWire, toWire, toWireList_eq, toWireList_eq, Wire.like_array_map, like_list]
      refine and_congr_right fun _ => forall₂_congr fun a b => forall_congr' fun hmem => ?_
      obtain ⟨hmem₁, hmem₂⟩ := List.of_mem_zip hmem
      exact ih a hmem₁ (hitems' b hmem₂)
    | null | bool | int | text => constructor <;> intro h <;> cases h
    | _ => cases hlabel
  | @dict as hdistinct hnamed hentries ih =>
    refine IsTree.like_iff_of_label (.dict hdistinct hnamed hentries) hb fun hlabel => ?_
    cases hb with
    | @dict bs hdistinct' hnamed' hentries' =>
      rw [toWire_dict hdistinct hnamed, toWire_dict hdistinct' hnamed', Wire.like_single,
        Wire.like_object_map, like_dict]
      exact and_congr_right fun _ => Dict.forall_get?_congr fun a ha b hb => ih a ha (hentries' b hb)
    | query => exact absurd (Option.some.inj hlabel) (Query.operation_ne _ (by decide))
    | _ => simp [label, Query.operation] at hlabel
  | @letIn as x hdistinct hnamed hbindings hbody ih ihbody =>
    refine IsTree.like_iff_of_label (.letIn hdistinct hnamed hbindings hbody) hb fun hlabel => ?_
    cases hb with
    | @letIn bs y hdistinct' hnamed' hbindings' hbody' =>
      have hpair : ∀ a b, (a, b) ∈ as.zip bs →
          (Wire.Like (.object [(a.1, a.2.toWire)]) (.object [(b.1, b.2.toWire)]) ↔
            a.1 = b.1 ∧ a.2.Like b.2) := by
        intro a b hmem
        obtain ⟨hmem₁, hmem₂⟩ := List.of_mem_zip hmem
        rw [Wire.like_member (hnamed a hmem₁), ih a hmem₁ (hbindings' b hmem₂)]
      have hbound : Wire.Like (.array (toWireBindings as)) (.array (toWireBindings bs)) ↔
          as.keys = bs.keys ∧ ∀ a b, (a, b) ∈ as.zip bs → a.2.Like b.2 := by
        rw [toWireBindings_eq, toWireBindings_eq, Wire.like_array_map, Dict.keys_eq_iff, and_assoc]
        simp only [← forall_and]
        exact and_congr_right fun _ => forall₃_congr hpair
      rw [toWire, toWire, Query.toWire, Query.toWire, @Wire.like_pair "let" "in" (by decide),
        hbound, ihbody hbody', like_letIn]
    | query hlet => exact absurd (Option.some.inj hlabel).symm hlet
    | _ => simp [label, Query.operation] at hlabel
  | @query q hlet hsteps harguments ih =>
    refine IsTree.like_iff_of_label (.query hlet hsteps harguments) hb fun hlabel => ?_
    cases hb with
    | @query r hlet' hsteps' harguments' =>
      rw [toWire, toWire, Query.toWire_eq hlet hsteps, Query.toWire_eq hlet' hsteps',
        Wire.like_object_map, like_query hlet (Option.some.inj hlabel)]
      exact and_congr_right fun _ => Dict.forall_get?_congr fun a ha b hb => ih a ha (harguments' b hb)
    | letIn => exact absurd (Option.some.inj hlabel) hlet
    | timestamp | date | ref | dict =>
      exact absurd (Option.some.inj hlabel).symm (Query.operation_ne _ (by decide))
    | _ => cases hlabel

/-- **The wire form tells the value.** Trees with one wire form, whatever the order of members, are the
same tree up to the order of entries in dictionaries and parameters: only a literal dictionary is sent
like one, and bindings are found in their order. -/
theorem wire_unambiguous {a b : Value} (ha : a.IsTree) (hb : b.IsTree)
    (h : a.toWire.Like b.toWire) : a.Like b ∧
      (∀ entries, a = .dict entries → ∃ entries', b = .dict entries') ∧
      ∀ bindings body, a = .query (.letIn bindings body) → ∃ bindings' body',
        b = .query (.letIn bindings' body') ∧ Dict.keys bindings = Dict.keys bindings' := by
  have hlike := (toWire_like_iff ha hb).1 h
  refine ⟨hlike, ?_, ?_⟩
  · rintro entries rfl
    cases hlike with
    | refl => exact ⟨entries, rfl⟩
    | dict => exact ⟨_, rfl⟩
  · rintro bindings body rfl
    cases hlike with
    | refl => exact ⟨bindings, body, rfl, rfl⟩
    | letIn hkeys => exact ⟨_, _, rfl, hkeys⟩
    | query hlet => exact absurd rfl hlet

/-- Creates a user with some data. -/
def creatingSample (data : Dict Value) : Value :=
  .query (.create (.query (.collection (.text "user") none)) [("data", .dict data)])

/-- Data with the names of operations for keys. -/
def dataSample : Dict Value := [("abort", .text "no"), ("var", .int 1)]

theorem isTree_creatingSample {data : Dict Value} (h : (Value.dict data).IsTree) :
    (creatingSample data).IsTree := by
  have hcollection : (query (.collection (.text "user") none)).IsTree :=
    @isTree_ofCall "collection" [.text "user"] _ rfl (by simpa using .text _) trivial
  have hparams : IsTree (.dict [(.text "data", .dict data)]) :=
    .dict (by simp [Dict.Distinct]) (by simp [Dict.IsNamed, Key.isText]) (by simpa using h)
  exact @isTree_ofCall "create" [_, _] _ rfl (by simp [hcollection, hparams]) ⟨_, rfl⟩

theorem wire_unambiguous_reordered :
    (creatingSample dataSample).IsTree ∧ (creatingSample dataSample.reverse).IsTree ∧
      (creatingSample dataSample).toWire.Like (creatingSample dataSample.reverse).toWire ∧
      (creatingSample dataSample).Like (creatingSample dataSample.reverse) := by
  have hdistinct : Dict.Distinct dataSample ∧ Dict.Distinct dataSample.reverse := by decide
  have hnamed : Dict.IsNamed dataSample ∧ Dict.IsNamed dataSample.reverse := by
    simp [Dict.IsNamed, dataSample, Key.isText]
  have htrees : ∀ e ∈ dataSample, e.2.IsTree := by
    simpa [dataSample] using ⟨IsTree.text _, IsTree.int _⟩
  have ha : (creatingSample dataSample).IsTree :=
    isTree_creatingSample (.dict hdistinct.1 hnamed.1 htrees)
  have hb : (creatingSample dataSample.reverse).IsTree :=
    isTree_creatingSample (.dict hdistinct.2 hnamed.2 fun e he => htrees e (List.mem_reverse.1 he))
  have hdata : (Value.dict dataSample).toWire.Like (Value.dict dataSample.reverse).toWire := by
    rw [toWire_dict hdistinct.1 hnamed.1, toWire_dict hdistinct.2 hnamed.2]
    exact Wire.like_single.2 (.of_perm (hdistinct.1.map _) ((List.reverse_perm _).symm.map _))
  have hwire : (creatingSample dataSample).toWire.Like (creatingSample dataSample.reverse).toWire :=
    .object (.of_keys_eq rfl) (Dict.forall_get?_cons (.refl _) (Dict.forall_get?_cons
      (Wire.like_single.2 (Wire.like_single.2 hdata)) (by rintro _ _ _ ⟨⟩) _) _)
  exact ⟨ha, hb, hwire, (wire_unambiguous ha hb hwire).1⟩

end Value

end DocMapper
