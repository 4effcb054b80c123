import DocMapper.Proofs.Number.Written
import DocMapper.Proofs.Wire.Unambiguous
/-!
# The JSON texts of terms

Terms are the queries over plain data of every kind (`Value.IsTerm`). What a term is sent as has a closed
JSON text (`Value.IsTerm.isClosed`), which shows by how it begins and by its names what kind of term it
is (`Value.IsTerm.shape_eq`).
-/

namespace DocMapper

open Text Wire

/-! ## Terms -/

/-- The JSON text of a word: of what is sent as it stands, without parts. -/
def Value.word? : Value → Option String
  | .null => some "null"
  | .bool b => some (if b then "true" else "false")
  | .int n => some (toString n)
  | .float x => some (numberText x)
  | .text s => some (jsonString s)
  | .bytes b => some (jsonString (quotedBytes b))
  | _ => none

/-- The elements of a list or a tuple. -/
def Value.elements? : Value → Option (List Value)
  | .list items | .tuple items => some items
  | _ => none

/-- Queries over plain data, of which dictionaries may have keys of any kind and bindings have names. -/
inductive Value.IsTerm : Value → Prop
  | word {v : Value} {t : String} (h : v.word? = some t) : IsTerm v
  | timestamp (t : Timestamp) : IsTerm (.timestamp t)
  | date (d : Date) : IsTerm (.date d)
  | ref (r : Ref) : IsTerm (.ref r)
  | elements {v : Value} {items : List Value} (hv : v.elements? = some items)
    (h : ∀ x ∈ items, IsTerm x) : IsTerm v
  | dict {entries : Dict Value} (hdistinct : Dict.Distinct entries)
    (h : ∀ e ∈ entries, IsTerm e.2) : IsTerm (.dict entries)
  | letIn {bindings : Dict Value} {body : Value} (hdistinct : Dict.Distinct bindings)
    (hnamed : Dict.IsNamed bindings) (h : ∀ e ∈ bindings, IsTerm e.2) (hbody : IsTerm body) :
    IsTerm (.query (.letIn bindings body))
  | query {q : Query} (hlet : q.operation ≠ "let") (h : ∀ e ∈ q.arguments, IsTerm e.2) :
    IsTerm (.query q)

/-- Trees, and so what builders make of trees, are terms. -/
theorem Value.IsTree.isTerm {v : Value} (h : v.IsTree) : v.IsTerm := by
  induction h with
  | null | bool | int | text => exact .word rfl
  | timestamp t => exact .timestamp t
  | date d => exact .date d
  | ref r => exact .ref r
  | list _ ih => exact .elements rfl ih
  | dict hdistinct _ _ ih => exact .dict hdistinct ih
  | letIn hdistinct hnamed _ _ ih ihbody => exact .letIn hdistinct hnamed ih ihbody
  | query hlet _ _ ih => exact .query hlet ih

/-- The entries of a dictionary as they are sent: each under the text of its key, where of several for
one text the last counts. -/
def Dict.sent (entries : Dict Value) : Dict Value :=
  Dict.ofEntries (entries.map fun e => (.text e.1.toText, e.2))

/-! ## Wire forms -/

namespace Wire

variable {v w : Wire} {name : String} {sorted : Bool}

/-- A text that does not begin with an opening bracket. -/
def StartsBare (t : String) : Prop := ∀ c ∈ t.toList.head?, c ≠ '[' ∧ c ≠ '\x7b'

/-- What kind of form it is: an array, or an object with one of the known names. -/
def shape : Wire → Option String
  | .array _ => some "[]"
  | w => w.label

/-- A form whose JSON text shows its shape. -/
inductive IsNeat : Wire → Prop
  | leaf {w : Wire} (hshape : w.shape = none) (h : StartsBare (w.json true)) : IsNeat w
  | array (items : List Wire) : IsNeat (.array items)
  | object {members : Dict Wire} (hdistinct : Dict.Distinct members) (hnamed : AreNamed members)
    (h : ∀ e ∈ members, IsClosed (e.2.json true)) : IsNeat (.object members)

theorem startsBare_plain {t : String} (h : IsPlainText t) : StartsBare t := by
  intro c hc
  obtain ⟨-, hopen, hopen', -⟩ := h c (List.mem_of_mem_head? hc)
  exact ⟨hopen, hopen'⟩

theorem startsBare_jsonString (s : String) : StartsBare (jsonString s) := by
  intro c hc
  simp only [jsonString, String.toList_append] at hc
  cases hc
  decide

theorem head?_array (items : List Wire) : ((array items).json true).toList.head? = some '[' := by
  simp [json]

theorem head?_object (members : Dict Wire) :
    ((object members).json true).toList.head? = some '\x7b' := by
  simp [json, objectText]

theorem IsNeat.of_object {members : Dict Wire} (h : (Wire.object members).IsNeat) :
    Dict.Distinct members ∧ AreNamed members ∧ ∀ e ∈ members, IsClosed (e.2.json true) := by
  cases h with
  | leaf _ hbare => exact absurd rfl (hbare _ (head?_object members)).2
  | object hdistinct hnamed hclosed => exact ⟨hdistinct, hnamed, hclosed⟩

/-! ## Objects -/

section Objects

variable {α : Type} {f : α → Wire} {as bs : Dict α}

/-- Objects of forms have one text just if they have one key by key. -/
theorem json_object_map_iff (has : (object (as.map fun e => (e.1, f e.2))).IsNeat)
    (hbs : (object (bs.map fun e => (e.1, f e.2))).IsNeat) :
    (object (as.map fun e => (e.1, f e.2))).json true =
        (object (bs.map fun e => (e.1, f e.2))).json true ↔ Dict.SameKeys as bs ∧
      ∀ key a b, as.get? key = some a → bs.get? key = some b →
        (f a).json true = (f b).json true := by
  obtain ⟨hda, hna, hca⟩ := has.of_object
  obtain ⟨hdb, hnb, hcb⟩ := hbs.of_object
  have hkeys : ∀ {d : Dict α}, Dict.Distinct (d.map fun e => (e.1, f e.2)) → Dict.Distinct d :=
    fun hd => List.pairwise_map.1 hd
  exact json_object_eq_iff (hkeys hda) (hkeys hdb)
    (fun e he => hna _ (List.mem_map_of_mem he)) (fun e he => hnb _ (List.mem_map_of_mem he))
    (fun e he => hca _ (List.mem_map_of_mem he)) (fun e he => hcb _ (List.mem_map_of_mem he))

theorem json_object_iff {ms ns : Dict Wire} (hms : (object ms).IsNeat) (hns : (object ns).IsNeat) :
    (object ms).json true = (object ns).json true ↔ Dict.SameKeys ms ns ∧
      ∀ key v w, ms.get? key = some v → ns.get? key = some w → v.json true = w.json true := by
  have hid : ∀ d : Dict Wire, (d.map fun e => (e.1, id e.2)) = d := fun d => List.map_id d
  have hiff := @json_object_map_iff _ id ms ns (by rwa [hid]) (by rwa [hid])
  rwa [hid, hid] at hiff

/-- The members behind the first one. -/
theorem IsNeat.tail {ms : Dict Wire} {k : Key} (h : (Wire.object ((k, v) :: ms)).IsNeat) :
    (Wire.object ms).IsNeat ∧ ∀ key, k.same key = true → Dict.has ms key = false := by
  obtain ⟨hdistinct, hnamed, hclosed⟩ := h.of_object
  obtain ⟨hfirst, hothers⟩ := List.pairwise_cons.1 hdistinct
  refine ⟨.object hothers (List.forall_mem_cons.1 hnamed).2 (List.forall_mem_cons.1 hclosed).2,
    fun key hkey => ?_⟩
  rw [Dict.has, Option.isSome_eq_false_iff, Option.isNone_iff_eq_none]
  refine Dict.get?_eq_none_of_forall fun e he => ?_
  rw [Key.same_comm, ← Key.same_congr hkey]
  exact hfirst e he

/-- Objects that begin with members of one name have one text just if these and the others have. -/
theorem json_object_cons_iff {ms ns : Dict Wire} (hms : (object ((.text name, v) :: ms)).IsNeat)
    (hns : (object ((.text name, w) :: ns)).IsNeat) :
    (object ((.text name, v) :: ms)).json true = (object ((.text name, w) :: ns)).json true ↔
      v.json true = w.json true ∧ (object ms).json true = (object ns).json true := by
  obtain ⟨hneat, hfresh⟩ := hms.tail
  obtain ⟨hneat', hfresh'⟩ := hns.tail
  have hother : ∀ {d : Dict Wire} {u : Wire} {key : Key}, Key.same (.text name) key = false →
      Dict.get? ((.text name, u) :: d) key = d.get? key := fun hkey => by simp [Dict.get?, hkey]
  have hself : ∀ {d : Dict Wire} {u : Wire}, Dict.get? ((.text name, u) :: d) (.text name) = some u :=
    by simp [Dict.get?]
  rw [json_object_iff hms hns, json_object_iff hneat hneat']
  constructor
  · rintro ⟨hkeys, htexts⟩
    refine ⟨htexts (.text name) v w hself hself, fun key => ?_, fun key a b ha hb => ?_⟩
    · by_cases hkey : Key.same (.text name) key = true
      · rw [hfresh key hkey, hfresh' key hkey]
      · have hsame := hkeys key
        rw [Dict.has, Dict.has, hother (by simpa using hkey), hother (by simpa using hkey)] at hsame
        exact hsame
    · have hkey : Key.same (.text name) key = false := by
        by_contra hkey
        have hnone := hfresh key (by simpa using hkey)
        rw [Dict.has, ha] at hnone
        cases hnone
      exact htexts key a b ((hother hkey).trans ha) ((hother hkey).trans hb)
  · rintro ⟨hvw, hkeys, htexts⟩
    refine ⟨fun key => ?_, Dict.forall_get?_cons
      (R := fun v w : Wire => v.json true = w.json true) hvw htexts _⟩
    by_cases hkey : Key.same (.text name) key = true
    · simp [Dict.has, Dict.get?, hkey]
    · have hsame := hkeys key
      rw [Dict.has, Dict.has] at hsame ⊢
      rwa [hother (by simpa using hkey), hother (by simpa using hkey)]

theorem isNeat_member {k : Key} (hk : k.isText = true) (hv : IsClosed (v.json true)) :
    (object [(k, v)]).IsNeat :=
  .object (List.pairwise_singleton _ _) (List.forall_mem_singleton.2 hk)
    (List.forall_mem_singleton.2 hv)

theorem isNeat_single (hv : IsClosed (v.json true)) : (single name v).IsNeat :=
  isNeat_member rfl hv

/-- Objects of one member have one text just if its name and its form have. -/
theorem json_member_iff {k l : Key} (hk : k.isText = true) (hl : l.isText = true)
    (hv : IsClosed (v.json true)) (hw : IsClosed (w.json true)) :
    (object [(k, v)]).json true = (object [(l, w)]).json true ↔
      k = l ∧ v.json true = w.json true := by
  rw [json_object_iff (isNeat_member hk hv) (isNeat_member hl hw)]
  constructor
  · rintro ⟨hkeys, htexts⟩
    obtain rfl : k = l := by
      by_contra hne
      have hkey := hkeys k
      cases k with
      | text s =>
        have hl : l.same (.text s) = false :=
          Bool.eq_false_iff.2 fun hsame => hne (Key.eq_text_of_same hsame).symm
        simp [Dict.has, Dict.get?, hl] at hkey
      | _ => cases hk
    exact ⟨rfl, htexts k v w (by simp [Dict.get?]) (by simp [Dict.get?])⟩
  · rintro ⟨rfl, hvw⟩
    exact ⟨.of_keys_eq rfl, Dict.forall_get?_cons (R := fun v w : Wire => v.json true = w.json true)
      hvw (by rintro _ _ _ ⟨⟩) _⟩

theorem json_single_iff (hv : IsClosed (v.json true)) (hw : IsClosed (w.json true)) :
    (single name v).json true = (single name w).json true ↔ v.json true = w.json true :=
  (json_member_iff rfl rfl hv hw).trans (and_iff_right rfl)

end Objects

/-! ## Shapes -/

theorem shape_object (members : Dict Wire) : (object members).shape = (object members).label := rfl

/-- **The shape of a form is shown by its JSON text.** -/
theorem IsNeat.shape_eq (hv : v.IsNeat) (hw : w.IsNeat) (h : v.json true = w.json true) :
    v.shape = w.shape := by
  have hhead : (v.json true).toList.head? = (w.json true).toList.head? := by rw [h]
  cases hv with
  | leaf hshape hbare =>
    cases hw with
    | leaf hshape' => rw [hshape, hshape']
    | array items => exact absurd rfl (hbare _ (hhead.trans (head?_array items))).1
    | @object ms => exact absurd rfl (hbare _ (hhead.trans (head?_object ms))).2
  | array items =>
    rw [head?_array] at hhead
    cases hw with
    | leaf hshape' hbare => exact absurd rfl (hbare _ hhead.symm).1
    | array => rfl
    | @object ms =>
      rw [head?_object] at hhead
      cases hhead
  | @object ms hdistinct hnamed hclosed =>
    rw [head?_object] at hhead
    cases hw with
    | leaf hshape' hbare => exact absurd rfl (hbare _ hhead.symm).2
    | array items =>
      rw [head?_array] at hhead
      cases hhead
    | @object ns hdistinct' hnamed' hclosed' =>
      have hkeys := ((json_object_iff (.object hdistinct hnamed hclosed)
        (.object hdistinct' hnamed' hclosed')).1 h).1
      have hhas : (fun name : String => Dict.has ms name) = fun name : String => Dict.has ns name :=
        funext fun name => hkeys name
      rw [shape_object, shape_object, label, label, hhas]

end Wire

/-! ## The texts of terms -/

namespace Value

variable {v : Value} {t : String} {sorted : Bool}

theorem json_of_word (h : v.word? = some t) (sorted : Bool) : v.toWire.json sorted = t := by
  unfold word? at h
  split at h <;> cases h <;> simp only [toWire, json]

theorem raw_of_word (h : v.word? = some t) : v.raw = v.toWire := by
  unfold word? at h
  split at h <;> cases h <;> simp only [raw, toWire]

theorem shape_of_word (h : v.word? = some t) : v.toWire.shape = none := by
  unfold word? at h
  split at h <;> cases h <;> (unfold toWire; rfl)

theorem isClosed_of_word (h : v.word? = some t) : IsClosed t := by
  unfold word? at h
  split at h <;> cases h
  · exact isClosed_of_plain (by decide) (by decide)
  · split <;> exact isClosed_of_plain (by decide) (by decide)
  · exact isClosed_of_plain (toString_int_ne _) (isPlainText_int _)
  · exact isClosed_of_plain (numberText_ne _) (isPlainText_numberText _)
  · exact isClosed_jsonString _
  · exact isClosed_jsonString _

theorem startsBare_of_word (h : v.word? = some t) : StartsBare t := by
  unfold word? at h
  split at h <;> cases h
  · exact startsBare_plain (by decide)
  · split <;> exact startsBare_plain (by decide)
  · exact startsBare_plain (isPlainText_int _)
  · exact startsBare_plain (isPlainText_numberText _)
  · exact startsBare_jsonString _
  · exact startsBare_jsonString _

/-! ### What stands as it is -/

theorem rawList_eq_map (items : List Value) : rawList items = items.map raw := by
  induction items with
  | nil => rfl
  | cons v rest ih => rw [rawList, ih, List.map_cons]

theorem rawEntries_eq_map (entries : Dict Value) :
    rawEntries entries = entries.map fun e => (e.1, e.2.raw) := by
  induction entries with
  | nil => rfl
  | cons e rest ih => rw [rawEntries, ih, List.map_cons]

theorem elements?_eq_some {items : List Value} (h : v.elements? = some items) :
    v = .list items ∨ v = .tuple items := by
  unfold elements? at h
  split at h <;> cases h
  · exact Or.inl rfl
  · exact Or.inr rfl

/-- A term as it stands has a closed text. -/
theorem IsTerm.isClosed_raw (h : v.IsTerm) : IsClosed (v.raw.json sorted) := by
  induction h with
  | word h =>
    rw [raw_of_word h, json_of_word h]
    exact isClosed_of_word h
  | timestamp | date | ref | letIn | query =>
    unfold raw json
    exact isClosed_jsonString _
  | elements hv h ih =>
    rcases elements?_eq_some hv with rfl | rfl <;> rw [raw, rawList_eq_map]
    · exact isClosed_array (List.forall_mem_map.2 ih)
    · exact isClosed_array (List.forall_mem_map.2 ih)
  | dict _ h ih =>
    rw [raw, rawEntries_eq_map]
    exact isClosed_object (List.forall_mem_map.2 ih)

theorem IsTerm.of_elements {items : List Value} (h : v.IsTerm) (hv : v.elements? = some items) :
    ∀ x ∈ items, x.IsTerm := by
  cases h with
  | word h => rcases elements?_eq_some hv with rfl | rfl <;> cases h
  | elements hv' h =>
    cases hv.symm.trans hv'
    exact h
  | _ => cases hv

theorem IsTerm.of_dict {entries : Dict Value} (h : IsTerm (Value.dict entries)) :
    Dict.Distinct entries ∧ ∀ e ∈ entries, e.2.IsTerm := by
  cases h with
  | word h => cases h
  | elements hv => cases hv
  | dict hdistinct h => exact ⟨hdistinct, h⟩

theorem IsTerm.of_letIn {bindings : Dict Value} {body : Value}
    (h : IsTerm (Value.query (.letIn bindings body))) : Dict.Distinct bindings ∧
      Dict.IsNamed bindings ∧ (∀ e ∈ bindings, e.2.IsTerm) ∧ body.IsTerm := by
  cases h with
  | word h => cases h
  | elements hv => cases hv
  | letIn hdistinct hnamed h hbody => exact ⟨hdistinct, hnamed, h, hbody⟩
  | query hlet => exact absurd rfl hlet

theorem IsTerm.of_query {q : Query} (h : IsTerm (Value.query q)) (hlet : q.operation ≠ "let") :
    ∀ e ∈ q.arguments, e.2.IsTerm := by
  cases h with
  | word h => cases h
  | elements hv => cases hv
  | letIn => exact absurd rfl hlet
  | query _ h => exact h

/-! ### What is sent -/

theorem toWire_of_elements {items : List Value} (h : v.elements? = some items) :
    v.toWire = .array (items.map toWire) := by
  rcases elements?_eq_some h with rfl | rfl <;> rw [toWire, toWireList_eq]

theorem toWire_sent (entries : Dict Value) : (dict entries).toWire =
    .single "object" (.object ((Dict.sent entries).map fun e => (e.1, e.2.toWire))) := by
  have hentries : ∀ entries : Dict Value, toWireEntries entries =
      (entries.map fun e => (Key.text e.1.toText, e.2)).map fun e => (e.1, e.2.toWire) := by
    intro entries
    induction entries with
    | nil => rfl
    | cons e rest ih => rw [toWireEntries, ih, List.map_cons, List.map_cons]
  rw [toWire, hentries, Dict.ofEntries_map, Dict.sent]

theorem forall_mem_sent {p : Value → Prop} {entries : Dict Value} (h : ∀ e ∈ entries, p e.2) :
    ∀ e ∈ Dict.sent entries, p e.2 :=
  Dict.forall_mem_putAll (by simp) (List.forall_mem_map.2 h)

theorem areNamed_sent (entries : Dict Value) : AreNamed (Dict.sent entries) := by
  intro e he
  rcases Dict.mem_keys_putAll (List.mem_map_of_mem he) with hnone | hkey
  · cases hnone
  · obtain ⟨e', he', hsame⟩ := List.mem_map.1 hkey
    obtain ⟨e'', -, rfl⟩ := List.mem_map.1 he'
    rw [← hsame]
    rfl

theorem isNeat_sent {entries : Dict Value} (h : ∀ e ∈ entries, IsClosed (e.2.toWire.json true)) :
    (Wire.object ((Dict.sent entries).map fun e => (e.1, e.2.toWire))).IsNeat :=
  .object ((Dict.distinct_ofEntries _).map _) (List.forall_mem_map.2 (areNamed_sent entries))
    (List.forall_mem_map.2 (forall_mem_sent (p := fun v => IsClosed (v.toWire.json true)) h))

end Value

/-! ### References and queries -/

theorem Wire.isClosed_single {name : String} {w : Wire} {sorted : Bool} (h : IsClosed (w.json sorted)) :
    IsClosed ((single name w).json sorted) :=
  isClosed_object (List.forall_mem_singleton.2 h)

theorem Ref.isClosed_toWire {sorted : Bool} : (r : Ref) → IsClosed (r.toWire.json sorted)
  | ⟨id, c, d⟩ => by
    have hpart : ∀ (name : String) (p : Option Ref), (∀ r, p = some r → IsClosed (r.toWire.json sorted)) →
        ∀ e ∈ partMember name p, IsClosed (e.2.json sorted) := by
      intro name p hp
      cases p with
      | none => exact List.forall_mem_nil _
      | some r => exact List.forall_mem_singleton.2 (isClosed_single (hp r rfl))
    rw [toWire_eq]
    refine isClosed_object (List.forall_mem_cons.2 ⟨by unfold json; exact isClosed_jsonString _,
      List.forall_mem_append.2 ⟨hpart _ _ fun r hr => isClosed_toWire r,
        hpart _ _ fun r hr => isClosed_toWire r⟩⟩)
termination_by r => sizeOf r
decreasing_by all_goals subst_vars; simp only [mk.sizeOf_spec, Option.some.sizeOf_spec]; omega

namespace Query

theorem distinct_arguments (q : Query) : Dict.Distinct q.arguments := by
  cases q with
  | select path source fallback => cases fallback <;> simp [Dict.Distinct, arguments, argument]
  | collection name scope => cases scope <;> simp [Dict.Distinct, arguments, argument]
  | index name scope => cases scope <;> simp [Dict.Distinct, arguments, argument]
  | matching source terms => cases terms <;> simp [Dict.Distinct, arguments, argument]
  | paginate source size after before =>
    cases size <;> cases after <;> cases before <;> simp [Dict.Distinct, arguments, argument]
  | _ => simp [Dict.Distinct, arguments]

theorem areNamed_arguments (q : Query) : AreNamed q.arguments := by
  cases q with
  | select path source fallback => cases fallback <;> simp [AreNamed, arguments, argument, Key.isText]
  | collection name scope => cases scope <;> simp [AreNamed, arguments, argument, Key.isText]
  | index name scope => cases scope <;> simp [AreNamed, arguments, argument, Key.isText]
  | matching source terms => cases terms <;> simp [AreNamed, arguments, argument, Key.isText]
  | paginate source size after before =>
    cases size <;> cases after <;> cases before <;> simp [AreNamed, arguments, argument, Key.isText]
  | _ => simp [AreNamed, arguments, Key.isText]

theorem exists_letIn {q : Query} (h : q.operation = "let") :
    ∃ bindings body, q = .letIn bindings body := by
  cases q with
  | letIn bindings body => exact ⟨bindings, body, rfl⟩
  | _ => simp [operation] at h

theorem exists_select {q : Query} (h : q.operation = "select") :
    ∃ path source fallback, q = .select path source fallback := by
  cases q with
  | select path source fallback => exact ⟨path, source, fallback, rfl⟩
  | _ => simp [operation] at h

/-- Paths are the only arguments, apart from bindings, that are sent as they stand. -/
theorem hasSteps_of_ne {q : Query} (h : q.operation ≠ "select") : q.HasSteps := by
  cases q with
  | select => exact absurd rfl h
  | _ => trivial

/-- The form of each argument of a selection. -/
theorem toWire_select (path : List Value) (source : Value) (fallback : Option Value) :
    (select path source fallback).toWire = .object ((.text "select", .array (path.map Value.raw)) ::
      (.text "from", source.toWire) :: (argument "default" fallback).map fun e => (e.1, e.2.toWire)) := by
  rw [toWire, Value.toWireOption_eq, Value.rawList_eq_map]
  rfl

theorem toWire_letIn (bindings : Dict Value) (body : Value) : (letIn bindings body).toWire =
    .object [(.text "let", .array (bindings.map fun e => .object [(e.1, e.2.toWire)])),
      (.text "in", body.toWire)] := by
  rw [toWire, Value.toWireBindings_eq]
  rfl

variable {q : Query} {sorted : Bool}

/-- **A query is sent as an object** with the names of its arguments. -/
theorem exists_members (h : (Value.query q).IsTerm)
    (hbindings : ∀ bindings body, q = .letIn bindings body →
      (∀ e ∈ bindings, IsClosed (e.2.toWire.json sorted)) ∧ IsClosed (body.toWire.json sorted))
    (harguments : ∀ e ∈ q.arguments, q.operation ≠ "let" → IsClosed (e.2.toWire.json sorted)) :
    ∃ members : Dict Wire, q.toWire = .object members ∧ members.keys = q.arguments.keys ∧
      ∀ e ∈ members, IsClosed (e.2.json sorted) := by
  by_cases hlet : q.operation = "let"
  · obtain ⟨bindings, body, rfl⟩ := exists_letIn hlet
    obtain ⟨hbindings, hbody⟩ := hbindings bindings body rfl
    refine ⟨_, toWire_letIn bindings body, rfl, ?_⟩
    simp only [List.forall_mem_cons]
    refine ⟨isClosed_array (List.forall_mem_map.2 fun e he => ?_), hbody, List.forall_mem_nil _⟩
    exact isClosed_object (List.forall_mem_singleton.2 (hbindings e he))
  have hclosed := fun e he => harguments e he hlet
  by_cases hselect : q.operation = "select"
  · obtain ⟨path, source, fallback, rfl⟩ := exists_select hselect
    obtain ⟨-, hothers⟩ := List.forall_mem_cons.1 hclosed
    obtain ⟨hsource, hfallback⟩ := List.forall_mem_cons.1 hothers
    have hsteps := (h.of_query hlet _ List.mem_cons_self).of_elements rfl
    refine ⟨_, toWire_select path source fallback, by simp [Dict.keys, arguments],
      List.forall_mem_cons.2 ⟨?_, List.forall_mem_cons.2 ⟨hsource, ?_⟩⟩⟩
    · exact isClosed_array (List.forall_mem_map.2 fun step hstep => (hsteps step hstep).isClosed_raw)
    · exact List.forall_mem_map.2 hfallback
  · refine ⟨_, toWire_eq hlet (hasSteps_of_ne hselect), by simp [Dict.keys], ?_⟩
    exact List.forall_mem_map.2 hclosed

end Query

namespace Value

variable {v : Value} {sorted : Bool}

/-- **A term has a closed JSON text.** -/
theorem IsTerm.isClosed (h : v.IsTerm) : IsClosed (v.toWire.json sorted) := by
  induction h with
  | word h =>
    rw [json_of_word h]
    exact isClosed_of_word h
  | timestamp | date =>
    rw [toWire]
    exact isClosed_single (by unfold json; exact isClosed_jsonString _)
  | ref r =>
    rw [toWire]
    exact isClosed_single r.isClosed_toWire
  | elements hv h ih =>
    rw [toWire_of_elements hv]
    exact isClosed_array (List.forall_mem_map.2 ih)
  | dict _ h ih =>
    rw [toWire_sent]
    exact isClosed_single (isClosed_object (List.forall_mem_map.2
      (forall_mem_sent (p := fun v => IsClosed (v.toWire.json sorted)) ih)))
  | @letIn bindings body hdistinct hnamed h hbody ih ihbody =>
    obtain ⟨members, hmembers, -, hclosed⟩ := Query.exists_members (.letIn hdistinct hnamed h hbody)
      (fun _ _ heq => by cases heq; exact ⟨ih, ihbody⟩) (fun _ _ hlet => absurd rfl hlet)
    rw [toWire, hmembers]
    exact isClosed_object hclosed
  | @query q hlet h ih =>
    obtain ⟨members, hmembers, -, hclosed⟩ := Query.exists_members (.query hlet h)
      (fun _ _ heq => absurd (by rw [heq]; rfl) hlet) (fun e he _ => ih e he)
    rw [toWire, hmembers]
    exact isClosed_object hclosed

/-- What is sent for a query shows the names of its arguments. -/
theorem IsTerm.exists_members {q : Query} (h : IsTerm (Value.query q)) : ∃ members : Dict Wire,
    q.toWire = .object members ∧ members.keys = q.arguments.keys ∧ (Wire.object members).IsNeat := by
  obtain ⟨members, hmembers, hkeys, hclosed⟩ := @Query.exists_members q true h
    (fun bindings body heq => by
      subst heq
      obtain ⟨-, -, hbindings, hbody⟩ := h.of_letIn
      exact ⟨fun e he => (hbindings e he).isClosed, hbody.isClosed⟩)
    fun e he hlet => (h.of_query hlet e he).isClosed
  have hnamed : ∀ k ∈ members.keys, k.isText = true := by
    rw [hkeys]
    exact List.forall_mem_map.2 q.areNamed_arguments
  exact ⟨members, hmembers, hkeys, .object (q.distinct_arguments.of_keys_eq hkeys)
    (fun e he => hnamed _ (List.mem_map_of_mem he)) hclosed⟩

/-! ### Shapes -/

/-- What kind of term it is: a list or tuple, or what its wire form shows by a name. -/
def shape (v : Value) : Option String :=
  match v.elements? with
  | some _ => some "[]"
  | none => v.label

theorem IsTerm.isNeat (h : v.IsTerm) : v.toWire.IsNeat := by
  cases h with
  | word h => exact .leaf (shape_of_word h) (by rw [json_of_word h]; exact startsBare_of_word h)
  | timestamp | date =>
    rw [toWire]
    exact isNeat_single (by unfold json; exact isClosed_jsonString _)
  | ref r =>
    rw [toWire]
    exact isNeat_single r.isClosed_toWire
  | elements hv =>
    rw [toWire_of_elements hv]
    exact .array _
  | dict _ h =>
    rw [toWire_sent]
    exact isNeat_single (isClosed_object (List.forall_mem_map.2
      (forall_mem_sent (p := fun v => IsClosed (v.toWire.json true)) fun e he => (h e he).isClosed)))
  | letIn hdistinct hnamed h hbody =>
    obtain ⟨members, hmembers, -, hneat⟩ := (IsTerm.letIn hdistinct hnamed h hbody).exists_members
    rw [toWire, hmembers]
    exact hneat
  | query hlet h =>
    obtain ⟨members, hmembers, -, hneat⟩ := (IsTerm.query hlet h).exists_members
    rw [toWire, hmembers]
    exact hneat

theorem IsTerm.shape_query {q : Query} (h : IsTerm (Value.query q)) :
    q.toWire.shape = some q.operation := by
  obtain ⟨members, hmembers, hkeys, -⟩ := h.exists_members
  have hhas : (fun name : String => Dict.has members name) =
      fun name : String => Dict.has q.arguments name :=
    funext fun name => Dict.SameKeys.of_keys_eq hkeys name
  rw [hmembers, shape_object, Wire.label, hhas, Query.find?_arguments]

theorem IsTerm.shape_toWire (h : v.IsTerm) : v.toWire.shape = v.shape := by
  cases h with
  | word h =>
    rw [shape_of_word h]
    unfold word? at h
    split at h <;> cases h <;> rfl
  | timestamp | date | ref =>
    rw [toWire]
    rfl
  | elements hv =>
    rw [toWire_of_elements hv, shape, hv]
    rfl
  | dict =>
    rw [toWire_sent]
    rfl
  | letIn hdistinct hnamed h hbody =>
    rw [toWire, (IsTerm.letIn hdistinct hnamed h hbody).shape_query]
    rfl
  | query hlet h =>
    rw [toWire, (IsTerm.query hlet h).shape_query]
    rfl

/-- **The shape of a term is shown by its JSON text.** -/
theorem IsTerm.shape_eq {a b : Value} (ha : a.IsTerm) (hb : b.IsTerm)
    (h : a.toWire.json true = b.toWire.json true) : a.shape = b.shape := by
  rw [← ha.shape_toWire, ← hb.shape_toWire, ha.isNeat.shape_eq hb.isNeat h]

end Value

end DocMapper
