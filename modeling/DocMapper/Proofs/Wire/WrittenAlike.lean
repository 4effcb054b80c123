import DocMapper.Proofs.Wire.Terms
/-!
# Terms of one JSON text

The JSON text of what a term is sent as, with members in ascending order, tells the term up to what JSON
does not show: the order of the entries of dictionaries, lists from tuples, and keys and values that are
written by one text (`Value.WrittenAlike`). `Value.json_eq_iff`: terms have one text just if they are
written alike. Apart from the order of entries, nothing is forgotten of what is written: numbers are
compared by their digits and bindings in their order.
-/

namespace DocMapper

open Text Wire
open Dict (SameKeys)

theorem Wire.json_text_iff {s t : String} : (text s).json true = (text t).json true ↔ s = t := by
  rw [json, json]
  exact ⟨fun h => (jsonString_append_inj (congrArg (· ++ "") h)).1, congrArg jsonString⟩

theorem Wire.isClosed_text (s : String) : IsClosed ((text s).json true) := by
  rw [json]
  exact isClosed_jsonString s

/-- Arrays of forms have one text just if they have one element by element. -/
theorem Wire.json_array_map_iff {α : Type} {f : α → Wire} {as bs : List α} {p : α → α → Prop}
    (has : ∀ x ∈ as, IsClosed ((f x).json true)) (hbs : ∀ y ∈ bs, IsClosed ((f y).json true))
    (h : ∀ x ∈ as, ∀ y ∈ bs, (f x).json true = (f y).json true ↔ p x y) :
    (array (as.map f)).json true = (array (bs.map f)).json true ↔
      as.length = bs.length ∧ ∀ x y, (x, y) ∈ as.zip bs → p x y := by
  rw [json_array_eq_iff (List.forall_mem_map.2 has) (List.forall_mem_map.2 hbs), List.map_map,
    List.map_map, ← List.forall₂_eq_eq_eq, List.forall₂_map_left_iff, List.forall₂_map_right_iff,
    List.forall₂_iff_zip]
  refine and_congr_right fun _ => forall₂_congr fun x y => forall_congr' fun hmem => ?_
  obtain ⟨hx, hy⟩ := List.of_mem_zip hmem
  exact h x hx y hy

/-! ## References -/

theorem Ref.isNeat_toWire (r : Ref) : r.toWire.IsNeat := by
  have hpart : ∀ (name : String) (p : Option Ref),
      ∀ e ∈ partMember name p, e.1 = .text name ∧ IsClosed (e.2.json true) := by
    intro name p
    cases p with
    | none => exact List.forall_mem_nil _
    | some r => exact List.forall_mem_singleton.2 ⟨rfl, isClosed_single r.isClosed_toWire⟩
  rw [toWire_eq]
  refine .object ?_ (List.forall_mem_cons.2 ⟨rfl, List.forall_mem_append.2 ⟨?_, ?_⟩⟩)
    (List.forall_mem_cons.2 ⟨by unfold json; exact isClosed_jsonString _, List.forall_mem_append.2
      ⟨fun e he => (hpart _ _ e he).2, fun e he => (hpart _ _ e he).2⟩⟩)
  · cases r.collection <;> cases r.database <;> simp [Dict.Distinct, partMember]
  · exact fun e he => by rw [(hpart _ _ e he).1]; rfl
  · exact fun e he => by rw [(hpart _ _ e he).1]; rfl

/-- **The JSON text of a reference tells the reference.** -/
theorem Ref.eq_of_json : (r s : Ref) → r.toWire.json true = s.toWire.json true → r = s
  | ⟨id, c, d⟩, ⟨id', c', d'⟩, h => by
    have hneat := isNeat_toWire ⟨id, c, d⟩
    have hneat' := isNeat_toWire ⟨id', c', d'⟩
    rw [toWire_eq] at h hneat hneat'
    rw [toWire_eq, json_object_iff hneat hneat'] at h
    obtain ⟨hkeys, htexts⟩ := h
    have hid : id = id' := json_text_iff.1 (htexts "id" (.text id) (.text id') rfl rfl)
    have hc : c = c' := eq_of_part hkeys htexts (get?_collection id c d)
      (get?_collection id' c' d') fun r s _ hjson =>
        eq_of_json r s ((json_single_iff r.isClosed_toWire s.isClosed_toWire).1 hjson)
    have hd : d = d' := eq_of_part hkeys htexts (get?_database id c d)
      (get?_database id' c' d') fun r s _ hjson =>
        eq_of_json r s ((json_single_iff r.isClosed_toWire s.isClosed_toWire).1 hjson)
    rw [hid, hc, hd]
termination_by r => sizeOf r
decreasing_by all_goals subst_vars; simp only [mk.sizeOf_spec, Option.some.sizeOf_spec]; omega

theorem Ref.json_eq_iff {r s : Ref} : r.toWire.json true = s.toWire.json true ↔ r = s :=
  ⟨eq_of_json r s, by rintro rfl; rfl⟩

namespace Value

/-! ## Written alike -/

/-- Terms that are written alike, whatever the order of entries in dictionaries and parameters. -/
inductive WrittenAlike : Value → Value → Prop
  | word {a b : Value} {t : String} (ha : a.word? = some t) (hb : b.word? = some t) :
    WrittenAlike a b
  | timestamp {s t : Timestamp} (h : s.iso = t.iso) : WrittenAlike (.timestamp s) (.timestamp t)
  | date (d : Date) : WrittenAlike (.date d) (.date d)
  | ref (r : Ref) : WrittenAlike (.ref r) (.ref r)
  /-- lists or tuples, element by element -/
  | elements {a b : Value} {as bs : List Value} (ha : a.elements? = some as)
    (hb : b.elements? = some bs) (hlength : as.length = bs.length)
    (h : ∀ x y, (x, y) ∈ as.zip bs → WrittenAlike x y) : WrittenAlike a b
  /-- dictionaries, by the texts of their keys -/
  | dict {as bs : Dict Value} (hkeys : SameKeys (Dict.sent as) (Dict.sent bs))
    (h : ∀ key x y, (Dict.sent as).get? key = some x → (Dict.sent bs).get? key = some y →
      WrittenAlike x y) : WrittenAlike (.dict as) (.dict bs)
  /-- bindings in the same order -/
  | letIn {as bs : Dict Value} {x y : Value} (hkeys : as.keys = bs.keys)
    (h : ∀ a b, (a, b) ∈ as.zip bs → WrittenAlike a.2 b.2) (hbody : WrittenAlike x y) :
    WrittenAlike (.query (.letIn as x)) (.query (.letIn bs y))
  /-- paths, which are written as they stand, from sources and to defaults that are written alike -/
  | select {path path' : List Value} {x y : Value} {u v : Option Value}
    (hpath : path.map (fun step => step.raw.json true) = path'.map fun step => step.raw.json true)
    (hsource : WrittenAlike x y) (hgiven : u.isSome = v.isSome)
    (hfallback : ∀ a b, u = some a → v = some b → WrittenAlike a b) :
    WrittenAlike (.query (.select path x u)) (.query (.select path' y v))
  /-- the same operation on arguments that are written alike -/
  | query {q r : Query} (hlet : q.operation ≠ "let") (hselect : q.operation ≠ "select")
    (hoperation : q.operation = r.operation) (hkeys : SameKeys q.arguments r.arguments)
    (h : ∀ name x y, q.arguments.get? name = some x → r.arguments.get? name = some y →
      WrittenAlike x y) : WrittenAlike (.query q) (.query r)

theorem shape_none_of_word {v : Value} {t : String} (h : v.word? = some t) : v.shape = none := by
  unfold word? at h
  split at h <;> cases h <;> rfl

theorem shape_of_elements {v : Value} {items : List Value} (h : v.elements? = some items) :
    v.shape = some "[]" := by
  rw [shape, h]

theorem WrittenAlike.shape_eq {a b : Value} (h : a.WrittenAlike b) : a.shape = b.shape := by
  cases h with
  | word ha hb => rw [shape_none_of_word ha, shape_none_of_word hb]
  | elements ha hb => rw [shape_of_elements ha, shape_of_elements hb]
  | query _ _ hoperation => exact congrArg some hoperation
  | _ => rfl

theorem writtenAlike_word {a b : Value} {s t : String} (ha : a.word? = some s)
    (hb : b.word? = some t) : a.WrittenAlike b ↔ s = t := by
  constructor
  · intro h
    cases h with
    | word ha' hb' =>
      cases ha.symm.trans ha'
      cases hb.symm.trans hb'
      rfl
    | elements ha' => rcases elements?_eq_some ha' with rfl | rfl <;> cases ha
    | _ => cases ha
  · rintro rfl
    exact .word ha hb

theorem writtenAlike_timestamp {s t : Timestamp} :
    (timestamp s).WrittenAlike (timestamp t) ↔ s.iso = t.iso := by
  constructor
  · intro h
    cases h with
    | word ha => cases ha
    | elements ha => cases ha
    | timestamp h => exact h
  · exact .timestamp

theorem writtenAlike_date {d e : Date} : (date d).WrittenAlike (date e) ↔ d = e := by
  constructor
  · intro h
    cases h with
    | word ha => cases ha
    | elements ha => cases ha
    | date => rfl
  · rintro rfl
    exact .date d

theorem writtenAlike_ref {r s : Ref} : (ref r).WrittenAlike (ref s) ↔ r = s := by
  constructor
  · intro h
    cases h with
    | word ha => cases ha
    | elements ha => cases ha
    | ref => rfl
  · rintro rfl
    exact .ref r

theorem writtenAlike_elements {a b : Value} {as bs : List Value} (ha : a.elements? = some as)
    (hb : b.elements? = some bs) : a.WrittenAlike b ↔
      as.length = bs.length ∧ ∀ x y, (x, y) ∈ as.zip bs → x.WrittenAlike y := by
  constructor
  · intro h
    cases h with
    | word ha' => rcases elements?_eq_some ha with rfl | rfl <;> cases ha'
    | elements ha' hb' hlength h =>
      cases ha.symm.trans ha'
      cases hb.symm.trans hb'
      exact ⟨hlength, h⟩
    | _ => cases ha
  · rintro ⟨hlength, h⟩
    exact .elements ha hb hlength h

theorem writtenAlike_dict {as bs : Dict Value} : (dict as).WrittenAlike (dict bs) ↔
    SameKeys (Dict.sent as) (Dict.sent bs) ∧ ∀ key x y, (Dict.sent as).get? key = some x →
      (Dict.sent bs).get? key = some y → x.WrittenAlike y := by
  constructor
  · intro h
    cases h with
    | word ha => cases ha
    | elements ha => cases ha
    | dict hkeys h => exact ⟨hkeys, h⟩
  · rintro ⟨hkeys, h⟩
    exact .dict hkeys h

theorem writtenAlike_letIn {as bs : Dict Value} {x y : Value} :
    (query (.letIn as x)).WrittenAlike (query (.letIn bs y)) ↔
      (as.keys = bs.keys ∧ ∀ a b, (a, b) ∈ as.zip bs → a.2.WrittenAlike b.2) ∧ x.WrittenAlike y := by
  constructor
  · intro h
    cases h with
    | word ha => cases ha
    | elements ha => cases ha
    | letIn hkeys h hbody => exact ⟨⟨hkeys, h⟩, hbody⟩
    | query hlet => exact absurd rfl hlet
  · rintro ⟨⟨hkeys, h⟩, hbody⟩
    exact .letIn hkeys h hbody

theorem writtenAlike_select {path path' : List Value} {x y : Value} {u v : Option Value} :
    (query (.select path x u)).WrittenAlike (query (.select path' y v)) ↔
      path.map (fun step => step.raw.json true) = path'.map (fun step => step.raw.json true) ∧
        x.WrittenAlike y ∧ u.isSome = v.isSome ∧
          ∀ a b, u = some a → v = some b → a.WrittenAlike b := by
  constructor
  · intro h
    cases h with
    | word ha => cases ha
    | elements ha => cases ha
    | select hpath hsource hgiven hfallback => exact ⟨hpath, hsource, hgiven, hfallback⟩
    | query _ hselect => exact absurd rfl hselect
  · rintro ⟨hpath, hsource, hgiven, hfallback⟩
    exact .select hpath hsource hgiven hfallback

theorem writtenAlike_query {q r : Query} (hlet : q.operation ≠ "let")
    (hselect : q.operation ≠ "select") (hoperation : q.operation = r.operation) :
    (query q).WrittenAlike (query r) ↔ SameKeys q.arguments r.arguments ∧
      ∀ name x y, q.arguments.get? name = some x → r.arguments.get? name = some y →
        x.WrittenAlike y := by
  constructor
  · intro h
    cases h with
    | word ha => cases ha
    | elements ha => cases ha
    | letIn => exact absurd rfl hlet
    | select => exact absurd rfl hselect
    | query _ _ _ hkeys h => exact ⟨hkeys, h⟩
  · rintro ⟨hkeys, h⟩
    exact .query hlet hselect hoperation hkeys h

/-! ## Terms of one text -/

/-- Only below one shape are there terms and texts to compare. -/
theorem IsTerm.json_eq_iff_of_shape {a b : Value} (ha : a.IsTerm) (hb : b.IsTerm)
    (h : a.shape = b.shape → (a.toWire.json true = b.toWire.json true ↔ a.WrittenAlike b)) :
    a.toWire.json true = b.toWire.json true ↔ a.WrittenAlike b :=
  ⟨fun hjson => (h (ha.shape_eq hb hjson)).1 hjson, fun halike => (h halike.shape_eq).2 halike⟩

/-! ### What shapes tell -/

/-- A shape with a name that forms of data have is that of data. -/
theorem label_of_shape {v : Value} {name : String} (hname : name ∈ dataNames)
    (h : v.shape = some name) : v.label = some name ∧ ∀ q, v ≠ .query q := by
  cases hv : v.elements? with
  | some items =>
    rw [shape_of_elements hv] at h
    cases h
    exact absurd hname (by decide)
  | none =>
    rw [shape, hv] at h
    refine ⟨h, ?_⟩
    rintro q rfl
    exact q.operation_ne hname (Option.some.inj h).symm

theorem exists_elements_of_shape {v : Value} (h : v.shape = some "[]") :
    ∃ items, v.elements? = some items := by
  cases v with
  | list items => exact ⟨items, rfl⟩
  | tuple items => exact ⟨items, rfl⟩
  | query q => exact absurd (Option.some.inj h) (by cases q <;> simp [Query.operation])
  | _ => simp [shape, elements?, label] at h

theorem exists_query_of_shape {v : Value} {q : Query} (h : (query q).shape = v.shape) :
    ∃ r, v = .query r ∧ q.operation = r.operation := by
  have hdata : ∀ name ∈ dataNames, some q.operation ≠ some name :=
    fun name hname heq => q.operation_ne hname (Option.some.inj heq).symm
  cases v with
  | query r => exact ⟨r, rfl, Option.some.inj h⟩
  | list | tuple => exact absurd (Option.some.inj h) (by cases q <;> simp [Query.operation])
  | timestamp | date | ref | dict => exact absurd h (hdata _ (by decide))
  | _ => cases h

/-- Optional arguments of one name agree just if both are given or neither, and what is given agrees. -/
theorem argument_iff {name : String} {u v : Option Value} {R : Value → Value → Prop} :
    (SameKeys (Query.argument name u) (Query.argument name v) ∧ ∀ key x y,
        Dict.get? (Query.argument name u) key = some x →
          Dict.get? (Query.argument name v) key = some y → R x y) ↔
      u.isSome = v.isSome ∧ ∀ x y, u = some x → v = some y → R x y := by
  have hget : ∀ o : Option Value, Dict.get? (Query.argument name o) name = o := by
    intro o
    cases o <;> simp [Query.argument, Dict.get?]
  constructor
  · rintro ⟨hkeys, h⟩
    have hname := hkeys name
    rw [Dict.has, Dict.has, hget, hget] at hname
    exact ⟨hname, fun x y hu hv => h name x y ((hget u).trans hu) ((hget v).trans hv)⟩
  · rintro ⟨hgiven, h⟩
    cases u with
    | none =>
      cases v with
      | none => exact ⟨.of_keys_eq rfl, by rintro _ _ _ ⟨⟩⟩
      | some y => cases hgiven
    | some x =>
      cases v with
      | none => cases hgiven
      | some y => exact ⟨.of_keys_eq rfl, Dict.forall_get?_cons (h x y rfl rfl)
          (by rintro _ _ _ ⟨⟩) _⟩

/-- Dictionaries have one text just if what is sent of them has, under each text of a key. -/
theorem json_dict_iff {as bs : Dict Value} (has : ∀ e ∈ as, e.2.IsTerm) (hbs : ∀ e ∈ bs, e.2.IsTerm) :
    (dict as).toWire.json true = (dict bs).toWire.json true ↔
      SameKeys (Dict.sent as) (Dict.sent bs) ∧ ∀ key x y, (Dict.sent as).get? key = some x →
        (Dict.sent bs).get? key = some y → x.toWire.json true = y.toWire.json true := by
  have hneat := isNeat_sent fun e he => (has e he).isClosed
  have hneat' := isNeat_sent fun e he => (hbs e he).isClosed
  rw [toWire_sent, toWire_sent, json_single_iff (isClosed_object hneat.of_object.2.2)
    (isClosed_object hneat'.of_object.2.2)]
  exact json_object_map_iff hneat hneat'

/-- Bindings have one text just if their names and values have, in their order. -/
theorem json_letIn_iff {as bs : Dict Value} {x y : Value} (ha : IsTerm (query (.letIn as x)))
    (hb : IsTerm (query (.letIn bs y))) (h : ∀ a ∈ as, ∀ b ∈ bs,
      (a.2.toWire.json true = b.2.toWire.json true ↔ a.2.WrittenAlike b.2)) :
    (query (.letIn as x)).toWire.json true = (query (.letIn bs y)).toWire.json true ↔
      (as.keys = bs.keys ∧ ∀ a b, (a, b) ∈ as.zip bs → a.2.WrittenAlike b.2) ∧
        x.toWire.json true = y.toWire.json true := by
  obtain ⟨-, hnamed, hbindings, hbody⟩ := ha.of_letIn
  obtain ⟨-, hnamed', hbindings', hbody'⟩ := hb.of_letIn
  have hmember : ∀ {d : Dict Value}, (∀ e ∈ d, e.2.IsTerm) →
      ∀ e ∈ d, IsClosed ((Wire.object [(e.1, e.2.toWire)]).json true) :=
    fun hd e he => isClosed_object (List.forall_mem_singleton.2 (hd e he).isClosed)
  have hbound : (Wire.array (as.map fun e => .object [(e.1, e.2.toWire)])).json true =
        (Wire.array (bs.map fun e => .object [(e.1, e.2.toWire)])).json true ↔
      as.keys = bs.keys ∧ ∀ a b, (a, b) ∈ as.zip bs → a.2.WrittenAlike b.2 := by
    rw [Dict.keys_eq_iff, and_assoc]
    simp only [← forall_and]
    exact json_array_map_iff (hmember hbindings) (hmember hbindings') fun a ha b hb =>
      (json_member_iff (hnamed a ha) (hnamed' b hb) (hbindings a ha).isClosed
        (hbindings' b hb).isClosed).trans (and_congr_right fun _ => h a ha b hb)
  have hneat := ha.isNeat
  have hneat' := hb.isNeat
  rw [toWire, Query.toWire_letIn] at hneat hneat'
  rw [toWire, toWire, Query.toWire_letIn, Query.toWire_letIn, json_object_cons_iff hneat hneat',
    hbound]
  exact and_congr_right fun _ => json_single_iff hbody.isClosed hbody'.isClosed

/-- Selections have one text just if their paths have, and their arguments. -/
theorem json_select_iff {path path' : List Value} {x y : Value} {u v : Option Value}
    (ha : IsTerm (query (.select path x u))) (hb : IsTerm (query (.select path' y v))) :
    (query (.select path x u)).toWire.json true = (query (.select path' y v)).toWire.json true ↔
      path.map (fun step => step.raw.json true) = path'.map (fun step => step.raw.json true) ∧
        x.toWire.json true = y.toWire.json true ∧ u.isSome = v.isSome ∧
          ∀ a b, u = some a → v = some b → a.toWire.json true = b.toWire.json true := by
  have hsteps := (List.forall_mem_cons.1 (ha.of_query (by simp [Query.operation]))).1.of_elements rfl
  have hsteps' := (List.forall_mem_cons.1 (hb.of_query (by simp [Query.operation]))).1.of_elements rfl
  have hneat := ha.isNeat
  have hneat' := hb.isNeat
  rw [toWire, Query.toWire_select] at hneat hneat'
  rw [toWire, toWire, Query.toWire_select, Query.toWire_select, json_object_cons_iff hneat hneat',
    json_object_cons_iff hneat.tail.1 hneat'.tail.1,
    json_object_map_iff hneat.tail.1.tail.1 hneat'.tail.1.tail.1, argument_iff,
    json_array_eq_iff (List.forall_mem_map.2 fun step hstep => (hsteps step hstep).isClosed_raw)
      (List.forall_mem_map.2 fun step hstep => (hsteps' step hstep).isClosed_raw),
    List.map_map, List.map_map]
  rfl

/-- All else has one text just if its arguments have. -/
theorem json_query_iff {q r : Query} (hq : IsTerm (query q)) (hr : IsTerm (query r))
    (hlet : q.operation ≠ "let") (hselect : q.operation ≠ "select")
    (hoperation : q.operation = r.operation) :
    (query q).toWire.json true = (query r).toWire.json true ↔ SameKeys q.arguments r.arguments ∧
      ∀ name x y, q.arguments.get? name = some x → r.arguments.get? name = some y →
        x.toWire.json true = y.toWire.json true := by
  have hneat := hq.isNeat
  have hneat' := hr.isNeat
  rw [toWire, Query.toWire_eq hlet (Query.hasSteps_of_ne hselect)] at hneat
  rw [toWire, Query.toWire_eq (hoperation ▸ hlet) (Query.hasSteps_of_ne (hoperation ▸ hselect))]
    at hneat'
  rw [toWire, toWire, Query.toWire_eq hlet (Query.hasSteps_of_ne hselect), Query.toWire_eq
    (hoperation ▸ hlet) (Query.hasSteps_of_ne (hoperation ▸ hselect))]
  exact json_object_map_iff hneat hneat'

/-- **Terms have one JSON text just if they are written alike.** -/
theorem json_eq_iff {a b : Value} (ha : a.IsTerm) (hb : b.IsTerm) :
    a.toWire.json true = b.toWire.json true ↔ a.WrittenAlike b := by
  induction ha generalizing b with
  | word hs =>
    refine IsTerm.json_eq_iff_of_shape (.word hs) hb fun hshape => ?_
    rw [shape_none_of_word hs] at hshape
    cases hb with
    | word ht => rw [json_of_word hs, json_of_word ht, writtenAlike_word hs ht]
    | elements hv => rw [shape_of_elements hv] at hshape; cases hshape
    | _ => cases hshape
  | timestamp s =>
    refine IsTerm.json_eq_iff_of_shape (.timestamp s) hb fun hshape => ?_
    obtain ⟨hlabel, hquery⟩ := label_of_shape (by decide) hshape.symm
    cases b with
    | timestamp t =>
      rw [toWire, toWire, json_single_iff (isClosed_text _) (isClosed_text _), json_text_iff,
        writtenAlike_timestamp]
    | query q => exact absurd rfl (hquery q)
    | _ => simp [label] at hlabel
  | date d =>
    refine IsTerm.json_eq_iff_of_shape (.date d) hb fun hshape => ?_
    obtain ⟨hlabel, hquery⟩ := label_of_shape (by decide) hshape.symm
    cases b with
    | date e =>
      rw [toWire, toWire, json_single_iff (isClosed_text _) (isClosed_text _), json_text_iff,
        Date.iso_inj, writtenAlike_date]
    | query q => exact absurd rfl (hquery q)
    | _ => simp [label] at hlabel
  | ref r =>
    refine IsTerm.json_eq_iff_of_shape (.ref r) hb fun hshape => ?_
    obtain ⟨hlabel, hquery⟩ := label_of_shape (by decide) hshape.symm
    cases b with
    | ref r' =>
      rw [toWire, toWire, json_single_iff r.isClosed_toWire r'.isClosed_toWire, Ref.json_eq_iff,
        writtenAlike_ref]
    | query q => exact absurd rfl (hquery q)
    | _ => simp [label] at hlabel
  | @elements a as hv hitems ih =>
    refine IsTerm.json_eq_iff_of_shape (.elements hv hitems) hb fun hshape => ?_
    rw [shape_of_elements hv] at hshape
    obtain ⟨bs, hv'⟩ := exists_elements_of_shape hshape.symm
    have hitems' := hb.of_elements hv'
    rw [toWire_of_elements hv, toWire_of_elements hv', writtenAlike_elements hv hv']
    exact json_array_map_iff (fun x hx => (hitems x hx).isClosed)
      (fun y hy => (hitems' y hy).isClosed) fun x hx y hy => ih x hx (hitems' y hy)
  | @dict as hdistinct hentries ih =>
    refine IsTerm.json_eq_iff_of_shape (.dict hdistinct hentries) hb fun hshape => ?_
    obtain ⟨hlabel, hquery⟩ := label_of_shape (by decide) hshape.symm
    cases b with
    | dict bs =>
      obtain ⟨-, hentries'⟩ := hb.of_dict
      rw [json_dict_iff hentries hentries', writtenAlike_dict]
      have hsent := forall_mem_sent (p := fun x => ∀ {y : Value}, y.IsTerm →
        (x.toWire.json true = y.toWire.json true ↔ x.WrittenAlike y)) ih
      exact and_congr_right fun _ => Dict.forall_get?_congr fun x hx y hy =>
        hsent x hx (forall_mem_sent hentries' y hy)
    | query q => exact absurd rfl (hquery q)
    | _ => simp [label] at hlabel
  | @letIn as x hdistinct hnamed hbindings hbody ih ihbody =>
    refine IsTerm.json_eq_iff_of_shape (.letIn hdistinct hnamed hbindings hbody) hb fun hshape => ?_
    obtain ⟨r, rfl, hoperation⟩ := exists_query_of_shape hshape
    obtain ⟨bs, y, rfl⟩ := Query.exists_letIn hoperation.symm
    obtain ⟨-, -, hbindings', hbody'⟩ := hb.of_letIn
    rw [json_letIn_iff (.letIn hdistinct hnamed hbindings hbody) hb fun a ha b hb =>
      ih a ha (hbindings' b hb), ihbody hbody', writtenAlike_letIn]
  | @query q hlet harguments ih =>
    refine IsTerm.json_eq_iff_of_shape (.query hlet harguments) hb fun hshape => ?_
    obtain ⟨r, rfl, hoperation⟩ := exists_query_of_shape hshape
    have harguments' := hb.of_query (hoperation ▸ hlet)
    by_cases hselect : q.operation = "select"
    · obtain ⟨path, x, u, rfl⟩ := Query.exists_select hselect
      obtain ⟨path', y, v, rfl⟩ := Query.exists_select (hoperation ▸ hselect)
      have hsource := ih (.text "from", x) (List.mem_cons_of_mem _ List.mem_cons_self)
        (harguments' (.text "from", y) (List.mem_cons_of_mem _ List.mem_cons_self))
      rw [json_select_iff (.query hlet harguments) hb, writtenAlike_select, hsource]
      refine and_congr_right fun _ => and_congr_right fun _ => and_congr_right fun _ =>
        forall₂_congr fun a b => forall₂_congr fun hu hv => ?_
      subst hu hv
      exact ih (.text "default", a) (by simp [Query.arguments, Query.argument])
        (harguments' (.text "default", b) (by simp [Query.arguments, Query.argument]))
    · rw [json_query_iff (.query hlet harguments) hb hlet hselect hoperation,
        writtenAlike_query hlet hselect hoperation]
      exact and_congr_right fun _ => Dict.forall_get?_congr fun x hx y hy =>
        ih x hx (harguments' y hy)

end Value

end DocMapper
