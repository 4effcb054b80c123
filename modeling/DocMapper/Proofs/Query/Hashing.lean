import DocMapper.Proofs.Value.Sameness
import DocMapper.Proofs.Wire.WrittenAlike
/-!
# Hashing of queries

Queries are told apart in look-up tables by the JSON text of their wire form, while they are the same by
the data that they hold. The text has its members in ascending order, so that the order of entries does
not count in it, but it keeps the order of bindings, and how numbers, times and keys are written. So
queries that are the same have one text unless some part is respelt (`Value.Respelt`):
`Query.hashText_eq_iff`.
-/

namespace DocMapper

open Text Wire
open Dict (SameKeys)

/-! ## Queries that are the same -/

namespace Query

theorem forall₂_argument (name : String) {u v : Option Value} (h : Value.sameOption u v = true) :
    List.Forall₂ (fun a b => a.1 = b.1 ∧ a.2.same b.2 = true) (argument name u)
      (argument name v) := by
  cases u with
  | none =>
    cases v with
    | none => exact .nil
    | some y => simp [Value.sameOption] at h
  | some x =>
    cases v with
    | none => simp [Value.sameOption] at h
    | some y => exact .cons ⟨rfl, by simpa [Value.sameOption] using h⟩ .nil

/-- Queries that are the same are of one operation, and the same in each argument. -/
theorem forall₂_arguments {q r : Query} (h : q.same r = true) : q.operation = r.operation ∧
    List.Forall₂ (fun a b => a.1 = b.1 ∧ a.2.same b.2 = true) q.arguments r.arguments := by
  unfold same at h
  split at h <;> simp_all [operation, arguments, Value.same, forall₂_argument]
  -- only a page has several arguments that may be missing
  obtain ⟨⟨⟨-, hsize⟩, hafter⟩, hbefore⟩ := h
  exact List.rel_append (forall₂_argument _ hsize)
    (List.rel_append (forall₂_argument _ hafter) (forall₂_argument _ hbefore))

theorem get?_of_same {q r : Query} (h : q.same r = true) : q.operation = r.operation ∧
    SameKeys q.arguments r.arguments ∧ ∀ key x y, q.arguments.get? key = some x →
      r.arguments.get? key = some y → x.same y = true :=
  ⟨(forall₂_arguments h).1, Dict.get?_of_forall₂ (forall₂_arguments h).2⟩

end Query

namespace Value

/-! ## Respelt parts -/

/-- Terms that hold the same data in places where some part is written in another way. -/
inductive Respelt : Value → Value → Prop
  /-- numbers of one value that are not written by one text -/
  | number {a b : Value} {s t : String} (h : a.sameNumber b = true) (ha : a.word? = some s)
    (hb : b.word? = some t) (hne : s ≠ t) : Respelt a b
  /-- one point in time, written in two ways -/
  | timestamp {s t : Timestamp} (h : s.same t = true) (hne : s.iso ≠ t.iso) :
    Respelt (.timestamp s) (.timestamp t)
  /-- keys that are no texts, so that several ones may stand for one text -/
  | keys {as bs : Dict Value} (h : ∃ e ∈ as, e.1.isText = false) : Respelt (.dict as) (.dict bs)
  /-- the same bindings in another order -/
  | order {as bs : Dict Value} {x y : Value} (h : SameKeys as bs) (hne : as.keys ≠ bs.keys) :
    Respelt (.query (.letIn as x)) (.query (.letIn bs y))
  /-- steps of a path, which are written as they stand -/
  | path {path path' : List Value} {x y : Value} {u v : Option Value}
    (h : sameList path path' = true)
    (hne : path.map (fun step => step.raw.json true) ≠ path'.map fun step => step.raw.json true) :
    Respelt (.query (.select path x u)) (.query (.select path' y v))
  | element {a b x y : Value} {as bs : List Value} (ha : a.elements? = some as)
    (hb : b.elements? = some bs) (hmem : (x, y) ∈ as.zip bs) (h : Respelt x y) : Respelt a b
  | entry {as bs : Dict Value} {k : Key} {x y : Value} (hx : as.get? k = some x)
    (hy : bs.get? k = some y) (h : Respelt x y) : Respelt (.dict as) (.dict bs)
  | argument {q r : Query} {k : Key} {x y : Value} (hx : q.arguments.get? k = some x)
    (hy : r.arguments.get? k = some y) (h : Respelt x y) : Respelt (.query q) (.query r)

/-! ### Parts of what is the same -/

/-- What is the same as a word is this word, or a number like it. -/
theorem word_of_same {a b : Value} {s : String} (ha : a.word? = some s) (h : a.same b = true) :
    a = b ∨ a.sameNumber b = true ∧ ∃ t, b.word? = some t := by
  by_cases hnumber : a.magnitude?.isSome
  · rw [same_of_isNumber hnumber] at h
    refine Or.inr ⟨h, ?_⟩
    obtain ⟨-, hb⟩ := isNumber_of_sameNumber h
    cases b <;> simp [magnitude?] at hb <;> exact ⟨_, rfl⟩
  · left
    unfold word? at ha
    split at ha <;> simp [magnitude?] at hnumber <;> cases ha <;> cases b <;>
      simp_all [same, sameNumber, sameMagnitude, magnitude?]

theorem elements_of_same {a b : Value} {as : List Value} (ha : a.elements? = some as)
    (h : a.same b = true) : ∃ bs, b.elements? = some bs ∧ sameList as bs = true := by
  rcases elements?_eq_some ha with rfl | rfl <;> cases b <;>
    simp_all [same, sameNumber, sameMagnitude, magnitude?, elements?]

theorem get?_of_same {as bs : Dict Value} (has : Dict.Distinct as) (hbs : Dict.Distinct bs)
    (h : (dict as).same (dict bs) = true) : SameKeys as bs ∧ ∀ key x y, as.get? key = some x →
      bs.get? key = some y → x.same y = true := by
  have hrel := (same_dict_iff_get? has hbs).1 h
  refine ⟨fun key => ?_, fun key x y hx hy => ?_⟩
  · have hkey := hrel key
    rw [Dict.has, Dict.has]
    generalize as.get? key = u, bs.get? key = v at hkey
    cases hkey <;> rfl
  · have hkey := hrel key
    rw [hx, hy] at hkey
    cases hkey with
    | some hsame => exact hsame

/-- Entries whose keys are texts are sent as they are. -/
theorem sent_of_named {entries : Dict Value} (hdistinct : Dict.Distinct entries)
    (hnamed : Dict.IsNamed entries) : Dict.sent entries = entries := by
  have hsame : ∀ e ∈ entries, (Key.text e.1.toText, e.2) = e := by
    rintro ⟨k, v⟩ he
    have hk := hnamed _ he
    cases k with
    | text s => rfl
    | _ => cases hk
  rw [Dict.sent, List.map_congr_left hsame, List.map_id', Dict.ofEntries_of_distinct hdistinct]

theorem isNamed_of_sameKeys {as bs : Dict Value} (h : SameKeys as bs) (hnamed : Dict.IsNamed as) :
    Dict.IsNamed bs := by
  intro e he
  obtain ⟨x, hx⟩ := Option.isSome_iff_exists.1 ((h e.1).trans (Dict.has_of_mem he))
  obtain ⟨s, hs, -⟩ := AreNamed.exists_text hnamed hx
  rw [hs]
  rfl

/-- The order of entries whose keys are texts is not written. -/
theorem writtenAlike_of_perm {as bs : Dict Value} (ha : IsTerm (dict as)) (hnamed : Dict.IsNamed as)
    (h : as.Perm bs) : (dict as).WrittenAlike (dict bs) := by
  obtain ⟨hdistinct, hentries⟩ := ha.of_dict
  have hget : ∀ key, as.get? key = Dict.get? bs key := hdistinct.get?_perm h
  have hkeys : SameKeys as bs := fun key => by rw [Dict.has, Dict.has, hget]
  have hdistinct' : Dict.Distinct bs :=
    h.pairwise_iff (fun {a b} hab => by rwa [Key.same_comm]) |>.1 hdistinct
  rw [writtenAlike_dict, sent_of_named hdistinct hnamed,
    sent_of_named hdistinct' (isNamed_of_sameKeys hkeys hnamed)]
  refine ⟨hkeys, fun key x y hx hy => ?_⟩
  cases hx.symm.trans ((hget key).trans hy)
  obtain ⟨k, hmem, -⟩ := Dict.exists_mem_of_get? hx
  exact (json_eq_iff (hentries _ hmem) (hentries _ hmem)).1 rfl

/-- Dictionaries that are the same but not written alike have keys that are no texts, or some value is
respelt. -/
theorem respelt_dict {as bs : Dict Value} (ha : (dict as).IsTerm) (hb : (dict bs).IsTerm)
    (h : (dict as).same (dict bs) = true) (hne : ¬ (dict as).WrittenAlike (dict bs))
    (hvalues : ∀ e ∈ as, ∀ {w : Value}, w.IsTerm → e.2.same w = true →
      e.2.WrittenAlike w ∨ e.2.Respelt w) : (dict as).Respelt (dict bs) := by
  obtain ⟨hdistinct, -⟩ := ha.of_dict
  obtain ⟨hdistinct', hentries'⟩ := hb.of_dict
  obtain ⟨hkeys, hsame⟩ := get?_of_same hdistinct hdistinct' h
  by_cases hnamed : Dict.IsNamed as
  swap
  · exact .keys (by simpa [Dict.IsNamed] using hnamed)
  rw [writtenAlike_dict, sent_of_named hdistinct hnamed,
    sent_of_named hdistinct' (isNamed_of_sameKeys hkeys hnamed)] at hne
  push Not at hne
  obtain ⟨key, x, y, hx, hy, hne⟩ := hne hkeys
  obtain ⟨k, hmem, -⟩ := Dict.exists_mem_of_get? hx
  obtain ⟨l, hmem', -⟩ := Dict.exists_mem_of_get? hy
  exact .entry hx hy
    ((hvalues _ hmem (hentries' _ hmem') (hsame key x y hx hy)).resolve_left hne)

/-- Bindings that are the same but not written alike have their names in another order, or some value or
the body is respelt. -/
theorem respelt_letIn {as bs : Dict Value} {x y : Value} (ha : IsTerm (query (.letIn as x)))
    (hb : IsTerm (query (.letIn bs y))) (h : (Query.letIn as x).same (.letIn bs y) = true)
    (hne : ¬ (query (.letIn as x)).WrittenAlike (query (.letIn bs y)))
    (hvalues : ∀ e ∈ as, ∀ {w : Value}, w.IsTerm → e.2.same w = true →
      e.2.WrittenAlike w ∨ e.2.Respelt w)
    (hbody : x.same y = true → x.WrittenAlike y ∨ x.Respelt y) :
    (query (.letIn as x)).Respelt (query (.letIn bs y)) := by
  obtain ⟨hdistinct, -, -, -⟩ := ha.of_letIn
  obtain ⟨hdistinct', -, hbindings', -⟩ := hb.of_letIn
  obtain ⟨-, -, harguments⟩ := Query.get?_of_same h
  have hdict := harguments "let" (.dict as) (.dict bs) rfl rfl
  obtain ⟨hnames, hsame⟩ := get?_of_same hdistinct hdistinct' hdict
  by_cases hkeys : as.keys = bs.keys
  swap
  · exact .order hnames hkeys
  by_cases hxy : x.WrittenAlike y
  swap
  · exact .argument (k := "in") rfl rfl ((hbody (harguments "in" x y rfl rfl)).resolve_left hxy)
  have hall : ¬ ∀ a b, (a, b) ∈ as.zip bs → a.2.WrittenAlike b.2 :=
    fun hall => hne (.letIn hkeys hall hxy)
  push Not at hall
  obtain ⟨a, b, hmem, hab⟩ := hall
  obtain ⟨ha, hb⟩ := List.of_mem_zip hmem
  have hx : as.get? a.1 = some a.2 := hdistinct.get?_of_mem ha
  have hy : Dict.get? bs a.1 = some b.2 := by
    rw [(Dict.keys_eq_iff.1 hkeys).2 a b hmem]
    exact hdistinct'.get?_of_mem hb
  exact .argument (k := "let") rfl rfl (.entry hx hy
    ((hvalues a ha (hbindings' b hb) (hsame _ _ _ hx hy)).resolve_left hab))

/-- Selections that are the same but not written alike differ in how some step of the path is written, or
some argument is respelt. -/
theorem respelt_select {path path' : List Value} {x y : Value} {u v : Option Value}
    (h : (Query.select path x u).same (.select path' y v) = true)
    (hne : ¬ (query (.select path x u)).WrittenAlike (query (.select path' y v)))
    (hpart : ∀ {k : Key} {a b : Value}, (Query.select path x u).arguments.get? k = some a →
      (Query.select path' y v).arguments.get? k = some b → ¬ a.WrittenAlike b →
        (query (.select path x u)).Respelt (query (.select path' y v))) :
    (query (.select path x u)).Respelt (query (.select path' y v)) := by
  obtain ⟨-, hkeys, hsame⟩ := Query.get?_of_same h
  by_cases hpath : path.map (fun step => step.raw.json true) =
      path'.map fun step => step.raw.json true
  swap
  · have hsteps := hsame "select" (list path) (list path') rfl rfl
    exact .path (by rwa [same] at hsteps) hpath
  by_cases hsource : x.WrittenAlike y
  swap
  · exact hpart (k := "from") rfl rfl hsource
  have hgiven : u.isSome = v.isSome := by
    have hdefault := hkeys "default"
    cases u <;> cases v <;> cases hdefault <;> rfl
  have hall : ¬ ∀ a b, u = some a → v = some b → a.WrittenAlike b :=
    fun hall => hne (.select hpath hsource hgiven hall)
  push Not at hall
  obtain ⟨a, b, rfl, rfl, hab⟩ := hall
  exact hpart (k := "default") rfl rfl hab

/-- **Terms that are the same are written alike, unless some part is respelt.** -/
theorem writtenAlike_or_respelt {a b : Value} (ha : a.IsTerm) (hb : b.IsTerm)
    (h : a.same b = true) : a.WrittenAlike b ∨ a.Respelt b := by
  induction ha generalizing b with
  | word hs =>
    rcases word_of_same hs h with rfl | ⟨hnumber, t, ht⟩
    · exact Or.inl (.word hs hs)
    · refine or_iff_not_imp_left.2 fun hne => .number hnumber hs ht ?_
      rwa [writtenAlike_word hs ht] at hne
  | timestamp s =>
    cases b with
    | timestamp t =>
      refine or_iff_not_imp_left.2 fun hne => .timestamp (by simpa [same] using h) ?_
      rwa [writtenAlike_timestamp] at hne
    | _ => simp [same, sameNumber, sameMagnitude, magnitude?] at h
  | date d =>
    cases b with
    | date e =>
      obtain rfl : d = e := by simpa [same] using h
      exact Or.inl (.date d)
    | _ => simp [same, sameNumber, sameMagnitude, magnitude?] at h
  | ref r =>
    cases b with
    | ref s =>
      obtain rfl : r = s := by simpa [same] using h
      exact Or.inl (.ref r)
    | _ => simp [same, sameNumber, sameMagnitude, magnitude?] at h
  | elements hv hitems ih =>
    obtain ⟨bs, hv', hsame⟩ := elements_of_same hv h
    obtain ⟨hlength, hsame⟩ := List.forall₂_iff_zip.1 (sameList_iff.1 hsame)
    refine or_iff_not_imp_left.2 fun hne => ?_
    rw [writtenAlike_elements hv hv'] at hne
    push Not at hne
    obtain ⟨x, y, hmem, hne⟩ := hne hlength
    obtain ⟨hx, hy⟩ := List.of_mem_zip hmem
    exact .element hv hv' hmem ((ih x hx (hb.of_elements hv' y hy) (hsame hmem)).resolve_left hne)
  | @dict as hdistinct hentries ih =>
    cases b with
    | dict bs =>
      exact or_iff_not_imp_left.2 fun hne =>
        respelt_dict (.dict hdistinct hentries) hb h hne fun e he w => ih e he
    | _ => simp [same, sameNumber, sameMagnitude, magnitude?] at h
  | @letIn as x hdistinct hnamed hbindings hbody ih ihbody =>
    cases b with
    | query r =>
      rw [same] at h
      obtain ⟨bs, y, rfl⟩ := Query.exists_letIn (Query.get?_of_same h).1.symm
      obtain ⟨-, -, -, hbody'⟩ := hb.of_letIn
      exact or_iff_not_imp_left.2 fun hne => respelt_letIn (.letIn hdistinct hnamed hbindings hbody)
        hb h hne (fun e he w => ih e he) (ihbody hbody')
    | _ => simp [same, sameNumber, sameMagnitude, magnitude?] at h
  | @query q hlet harguments ih =>
    cases b with
    | query r =>
      rw [same] at h
      obtain ⟨hoperation, hkeys, hsame⟩ := Query.get?_of_same h
      have harguments' := hb.of_query (hoperation ▸ hlet)
      have hpart : ∀ {k : Key} {x y : Value}, q.arguments.get? k = some x →
          r.arguments.get? k = some y → ¬ x.WrittenAlike y → (query q).Respelt (query r) := by
        intro k x y hx hy hne
        obtain ⟨l, hmem, -⟩ := Dict.exists_mem_of_get? hx
        obtain ⟨l', hmem', -⟩ := Dict.exists_mem_of_get? hy
        exact .argument hx hy
          ((ih _ hmem (harguments' _ hmem') (hsame k x y hx hy)).resolve_left hne)
      refine or_iff_not_imp_left.2 fun hne => ?_
      by_cases hselect : q.operation = "select"
      · obtain ⟨path, x, u, rfl⟩ := Query.exists_select hselect
        obtain ⟨path', y, v, rfl⟩ := Query.exists_select (hoperation ▸ hselect)
        exact respelt_select h hne hpart
      · rw [writtenAlike_query hlet hselect hoperation] at hne
        push Not at hne
        obtain ⟨k, x, y, hx, hy, hne⟩ := hne hkeys
        exact hpart hx hy hne
    | _ => simp [same, sameNumber, sameMagnitude, magnitude?] at h

end Value

namespace Query

variable {a b : Query}

/-- **Queries have one text in look-up tables just if they are written alike**, which queries that are the
same are unless some part is respelt: a number in another kind, a time in another zone, keys that are no
texts, bindings in another order, or a step of a path. -/
theorem hashText_eq_iff (ha : (Value.query a).IsTerm) (hb : (Value.query b).IsTerm) :
    (a.hashText = b.hashText ↔ (Value.query a).WrittenAlike (.query b)) ∧
      (a.same b = true → a.hashText = b.hashText ∨ (Value.query a).Respelt (.query b)) := by
  have hiff : a.hashText = b.hashText ↔ (Value.query a).WrittenAlike (.query b) := by
    rw [← Value.json_eq_iff ha hb, Value.toWire, Value.toWire]
    rfl
  refine ⟨hiff, fun h => ?_⟩
  rw [hiff]
  exact Value.writtenAlike_or_respelt ha hb (by rwa [Value.same])

/-- Two names for numbers. -/
def numbersSample : Dict Value := [("a", .int 1), ("b", .int 2)]

/-- The order of parameters does not count, that of bindings does. -/
theorem hashText_eq_iff_samples :
    (createCollection numbersSample).same (createCollection numbersSample.reverse) = true ∧
      (createCollection numbersSample).hashText =
        (createCollection numbersSample.reverse).hashText ∧
      (letIn numbersSample .null).same (letIn numbersSample.reverse .null) = true ∧
      (letIn numbersSample .null).hashText ≠ (letIn numbersSample.reverse .null).hashText ∧
      (Value.query (letIn numbersSample .null)).Respelt
        (.query (letIn numbersSample.reverse .null)) := by
  have hdistinct : Dict.Distinct numbersSample ∧ Dict.Distinct numbersSample.reverse := by decide
  have hnamed : Dict.IsNamed numbersSample ∧ Dict.IsNamed numbersSample.reverse := by
    simp [Dict.IsNamed, numbersSample, Key.isText]
  have hentries : ∀ e ∈ numbersSample, e.2.IsTree := by
    simpa [numbersSample] using ⟨Value.IsTree.int _, Value.IsTree.int _⟩
  have hentries' : ∀ e ∈ numbersSample.reverse, e.2.IsTree :=
    fun e he => hentries e (List.mem_reverse.1 he)
  have hdict : (Value.dict numbersSample).IsTree := .dict hdistinct.1 hnamed.1 hentries
  have hdict' : (Value.dict numbersSample.reverse).IsTree := .dict hdistinct.2 hnamed.2 hentries'
  have hcreate : ∀ {d : Dict Value}, (Value.dict d).IsTree →
      (Value.query (createCollection d)).IsTree := fun hd =>
    .query (by simp [operation]) trivial (List.forall_mem_singleton.2 hd)
  have hlet : (Value.query (letIn numbersSample .null)).IsTree :=
    .letIn hdistinct.1 hnamed.1 hentries .null
  have hlet' : (Value.query (letIn numbersSample.reverse .null)).IsTree :=
    .letIn hdistinct.2 hnamed.2 hentries' .null
  have hparams := Value.writtenAlike_of_perm hdict.isTerm hnamed.1
    (List.reverse_perm numbersSample).symm
  have hcreated := (hashText_eq_iff (hcreate hdict).isTerm (hcreate hdict').isTerm).1.2 (.query
    (by simp [operation]) (by simp [operation]) rfl (.of_keys_eq rfl)
    (Dict.forall_get?_cons hparams (by rintro _ _ _ ⟨⟩) _))
  have hbound : (letIn numbersSample .null).hashText ≠ (letIn numbersSample.reverse .null).hashText :=
    fun h => absurd
      (Value.writtenAlike_letIn.1 ((hashText_eq_iff hlet.isTerm hlet'.isTerm).1.1 h)).1.1
      (by simp [numbersSample, Dict.keys])
  exact ⟨rfl, hcreated, rfl, hbound,
    ((hashText_eq_iff hlet.isTerm hlet'.isTerm).2 rfl).resolve_left hbound⟩

end Query

end DocMapper
