import DocMapper.Proofs.Text.JsonStrings
import DocMapper.Proofs.Value.Likeness
import DocMapper.Wire
import Mathlib.Data.List.Pairwise
/-!
# JSON texts tell the forms apart

A reader who counts the brackets that are open, and knows whether it is in a string, sees where the text
of a form ends (`Text.IsClosed`): at the first comma or closing bracket that is not its own. So a JSON
text with members in ascending order tells its parts. Arrays have one text just if their elements have
(`Wire.json_array_eq_iff`), and objects just if they have the same names and one text under each
(`Wire.json_object_eq_iff`).
-/

namespace DocMapper

namespace Text

/-! ## Reading brackets and strings -/

/-- What a reader of JSON is in. -/
inductive Mode
  | outside
  /-- a string -/
  | quoted
  /-- a string, behind a backslash -/
  | escaped

/-- How many brackets are open to a reader, and what it is in. -/
structure Place where
  depth : Nat
  mode : Mode := .outside

namespace Place

/-- What a character makes of a place. A comma or closing bracket outside of all brackets is the end. -/
def step? (p : Place) (c : Char) : Option Place :=
  match p.mode with
  | .escaped => some { p with mode := .quoted }
  | .quoted =>
    if c = '\\' then some { p with mode := .escaped }
    else if c = '"' then some { p with mode := .outside }
    else some p
  | .outside =>
    if c = '"' then some { p with mode := .quoted }
    else if c = '[' ∨ c = '\x7b' then some { p with depth := p.depth + 1 }
    else if c = ',' then if p.depth = 0 then none else some p
    else if c = ']' ∨ c = '\x7d' then if p.depth = 0 then none else some { p with depth := p.depth - 1 }
    else some p

/-- Where a reader comes to with a text. -/
def after? (p : Place) (text : String) : Option Place := text.toList.foldlM step? p

theorem after?_append (p : Place) (s t : String) :
    p.after? (s ++ t) = (p.after? s).bind fun q => q.after? t := by
  rw [after?, String.toList_append, List.foldlM_append]
  rfl

/-- A text whose characters change nothing leads nowhere. -/
theorem after?_eq_self {p : Place} {t : String} (h : ∀ c ∈ t.toList, p.step? c = some p) :
    p.after? t = some p := by
  rw [after?]
  generalize t.toList = chars at h
  induction chars with
  | nil => rfl
  | cons c chars ih =>
    obtain ⟨hc, hrest⟩ := List.forall_mem_cons.1 h
    rw [List.foldlM_cons, hc]
    exact ih hrest

end Place

/-- A text that is there and leaves no bracket or string open, and closes none that it has not opened. -/
structure IsClosed (text : String) : Prop where
  ne : text ≠ ""
  after? : ∀ depth, Place.after? ⟨depth, .outside⟩ text = some ⟨depth, .outside⟩

/-- A text begins with a comma or a closing bracket, if with anything. -/
def EndsHere (text : String) : Prop :=
  ∀ c ∈ text.toList.head?, c = ',' ∨ c = ']' ∨ c = '\x7d'

variable {s t r r' : String}

theorem endsHere_append (h : EndsHere s) (hs : s ≠ "") (t : String) : EndsHere (s ++ t) := by
  intro c hc
  rw [String.toList_append, List.head?_append_of_ne_nil _ (mt String.toList_eq_nil_iff.1 hs)] at hc
  exact h c hc

/-- Outside of all brackets a reader comes to an end. -/
theorem EndsHere.after?_eq_none (h : EndsHere t) (ht : t ≠ "") :
    Place.after? ⟨0, .outside⟩ t = none := by
  obtain ⟨c, rest, hchars⟩ := List.exists_cons_of_ne_nil (mt String.toList_eq_nil_iff.1 ht)
  have hc := h c (by rw [hchars]; rfl)
  rw [Place.after?, hchars, List.foldlM_cons]
  rcases hc with rfl | rfl | rfl <;> rfl

/-- A closed text does not go on with the end of another one. -/
theorem IsClosed.eq_empty (hs : IsClosed s) (h : IsClosed (s ++ t)) (ht : EndsHere t) : t = "" := by
  by_contra hne
  have hafter := h.after? 0
  rw [Place.after?_append, hs.after? 0, Option.bind_some, ht.after?_eq_none hne] at hafter
  cases hafter

theorem IsClosed.not_endsHere (h : IsClosed s) : ¬ EndsHere s := by
  intro hends
  have hafter := h.after? 0
  rw [hends.after?_eq_none h.ne] at hafter
  cases hafter

/-- What begins the rest of a text begins the rest. -/
theorem endsHere_of_append (h : EndsHere (s ++ t)) : EndsHere s := by
  intro c hc
  refine h c ?_
  rw [String.toList_append]
  exact List.mem_head?_append_of_mem_head? hc

/-- **A closed text is told from what follows it**, if it ends there. -/
theorem IsClosed.append_inj (hs : IsClosed s) (ht : IsClosed t) (hr : EndsHere r) (hr' : EndsHere r')
    (h : s ++ r = t ++ r') : s = t ∧ r = r' := by
  have hchars := congrArg String.toList h
  rw [String.toList_append, String.toList_append] at hchars
  rcases List.append_eq_append_iff.1 hchars with ⟨chars, hlonger, hrest⟩ | ⟨chars, hlonger, hrest⟩
  · obtain ⟨u, rfl⟩ : ∃ u : String, u.toList = chars := ⟨_, String.toList_ofList⟩
    rw [← String.toList_append, String.toList_inj] at hlonger hrest
    subst hlonger hrest
    rw [hs.eq_empty ht (endsHere_of_append hr)]
    simp
  · obtain ⟨u, rfl⟩ : ∃ u : String, u.toList = chars := ⟨_, String.toList_ofList⟩
    rw [← String.toList_append, String.toList_inj] at hlonger hrest
    subst hlonger hrest
    rw [ht.eq_empty hs (endsHere_of_append hr')]
    simp

/-! ## Closed texts -/

/-- A character that is neither a bracket, a quote nor a comma. -/
def IsPlainChar (c : Char) : Prop :=
  c ≠ '"' ∧ c ≠ '[' ∧ c ≠ '\x7b' ∧ c ≠ ',' ∧ c ≠ ']' ∧ c ≠ '\x7d'

instance (c : Char) : Decidable (IsPlainChar c) := inferInstanceAs (Decidable (_ ∧ _))

/-- A text of plain characters. -/
def IsPlainText (t : String) : Prop := ∀ c ∈ t.toList, IsPlainChar c

instance (t : String) : Decidable (IsPlainText t) := List.decidableBAll _ t.toList

theorem isClosed_of_plain (hne : t ≠ "") (h : IsPlainText t) : IsClosed t := by
  refine ⟨hne, fun depth => Place.after?_eq_self fun c hc => ?_⟩
  obtain ⟨hquote, hopen, hopen', hcomma, hclose, hclose'⟩ := h c hc
  simp only [Place.step?, if_neg hquote, if_neg hcomma, if_neg (not_or.2 ⟨hopen, hopen'⟩),
    if_neg (not_or.2 ⟨hclose, hclose'⟩)]

/-- A string goes on with any character but a quote or a backslash. -/
theorem step?_quoted {c : Char} (hslash : c ≠ '\\') (hquote : c ≠ '"') (depth : Nat) :
    Place.step? ⟨depth, .quoted⟩ c = some ⟨depth, .quoted⟩ := by
  simp only [Place.step?, if_neg hslash, if_neg hquote]

theorem after?_unitEscape {n : Nat} (h : n < 0x10000) (depth : Nat) :
    Place.after? ⟨depth, .quoted⟩ (unitEscape n) = some ⟨depth, .quoted⟩ := by
  have hdigit : ∀ n < 16, Nat.digitChar n ≠ '\\' ∧ Nat.digitChar n ≠ '"' := by decide
  have hdigits : ∀ c ∈ (hex 4 n).toList, c ≠ '\\' ∧ c ≠ '"' := by
    rw [hex_unit h]
    simp only [List.forall_mem_cons]
    exact ⟨hdigit _ (by omega), hdigit _ (by omega), hdigit _ (by omega), hdigit _ (by omega), by simp⟩
  rw [unitEscape, Place.after?_append]
  exact Place.after?_eq_self fun c hc => step?_quoted (hdigits c hc).1 (hdigits c hc).2 depth

/-- A character of a JSON string does not end it. -/
theorem after?_jsonChar (c : Char) (depth : Nat) :
    Place.after? ⟨depth, .quoted⟩ (jsonChar c) = some ⟨depth, .quoted⟩ := by
  have hvalid : c.toNat < 0xD800 ∨ (0xDFFF < c.toNat ∧ c.toNat < 0x110000) := c.valid
  unfold jsonChar
  split
  · rfl
  split
  · rfl
  split
  · rfl
  split
  · rfl
  split
  · rfl
  split
  · rfl
  split
  · rfl
  rename_i hquote hslash _ _ _ _ _
  split
  · refine Place.after?_eq_self fun d hd => ?_
    rw [String.toList_singleton, List.mem_singleton] at hd
    rw [hd, step?_quoted hslash hquote]
  split
  · rename_i hsmall
    exact after?_unitEscape hsmall depth
  · rw [Place.after?_append, after?_unitEscape (by omega), Option.bind_some,
      after?_unitEscape (by omega)]

theorem isClosed_jsonString (s : String) : IsClosed (jsonString s) := by
  refine ⟨?_, fun depth => ?_⟩
  · intro hempty
    have hquote : (jsonString s).toList = [] := by rw [hempty]; rfl
    simp [jsonString] at hquote
  · have hbody : ∀ chars : List Char,
        Place.after? ⟨depth, .quoted⟩ (String.join (chars.map jsonChar)) =
          some ⟨depth, .quoted⟩ := by
      intro chars
      induction chars with
      | nil => rfl
      | cons c chars ih =>
        rw [List.map_cons, String.join_cons, Place.after?_append, after?_jsonChar, Option.bind_some, ih]
    rw [jsonString, Place.after?_append, Place.after?_append]
    have hopen : Place.after? ⟨depth, .outside⟩ "\"" = some ⟨depth, .quoted⟩ := rfl
    rw [hopen, Option.bind_some, hbody]
    rfl

/-! ## Texts between brackets -/

variable {xs ys : List String} {opening closing : String}

/-- What stands behind the first of some texts between brackets. -/
def following (closing : String) : List String → String
  | [] => closing
  | x :: xs => ", " ++ (x ++ following closing xs)

theorem intercalate_append (x : String) (xs : List String) :
    ", ".intercalate (x :: xs) ++ closing = x ++ following closing xs := by
  induction xs generalizing x with
  | nil => rw [String.intercalate_singleton, following]
  | cons y ys ih =>
    rw [String.intercalate_cons_cons, String.append_assoc, ih, following, String.append_assoc]

theorem endsHere_following (h : EndsHere closing) (xs : List String) :
    EndsHere (following closing xs) := by
  cases xs with
  | nil => exact h
  | cons x xs => exact endsHere_append (by simp [EndsHere]) (by decide) _

/-- A bracket that closes what is between brackets. -/
def IsClosing (closing : String) : Prop := closing = "]" ∨ closing = "\x7d"

theorem IsClosing.endsHere (h : IsClosing closing) : EndsHere closing := by
  rcases h with rfl | rfl <;> simp [EndsHere]

theorem IsClosing.ne_comma (h : IsClosing closing) (t : String) : closing ≠ ", " ++ t := by
  intro heq
  have hchars := congrArg (fun s : String => s.toList.head?) heq
  rcases h with rfl | rfl <;> simp at hchars

theorem following_inj (hc : IsClosing closing) (hxs : ∀ x ∈ xs, IsClosed x)
    (hys : ∀ y ∈ ys, IsClosed y) (h : following closing xs = following closing ys) : xs = ys := by
  induction xs generalizing ys with
  | nil =>
    cases ys with
    | nil => rfl
    | cons y ys => exact absurd h (hc.ne_comma _)
  | cons x xs ih =>
    cases ys with
    | nil => exact absurd h.symm (hc.ne_comma _)
    | cons y ys =>
      obtain ⟨hx, hothers⟩ := List.forall_mem_cons.1 hxs
      obtain ⟨hy, hothers'⟩ := List.forall_mem_cons.1 hys
      rw [following, following, String.append_right_inj] at h
      obtain ⟨rfl, hrest⟩ := hx.append_inj hy (endsHere_following hc.endsHere _)
        (endsHere_following hc.endsHere _) h
      rw [ih hothers hothers' hrest]

/-- **Closed texts between brackets are told apart.** -/
theorem intercalate_inj (hc : IsClosing closing) (hxs : ∀ x ∈ xs, IsClosed x)
    (hys : ∀ y ∈ ys, IsClosed y) :
    ", ".intercalate xs ++ closing = ", ".intercalate ys ++ closing ↔ xs = ys := by
  refine ⟨fun h => ?_, fun h => by rw [h]⟩
  have hclosed : ∀ {y : String} {ys : List String}, IsClosed y →
      ", ".intercalate [] ++ closing ≠ ", ".intercalate (y :: ys) ++ closing := by
    intro y ys hy heq
    rw [intercalate_append, String.intercalate_nil, String.empty_append] at heq
    have hends := hc.endsHere
    rw [heq] at hends
    exact hy.not_endsHere (endsHere_of_append hends)
  cases xs with
  | nil =>
    cases ys with
    | nil => rfl
    | cons y ys => exact absurd h (hclosed (hys y List.mem_cons_self))
  | cons x xs =>
    cases ys with
    | nil => exact absurd h.symm (hclosed (hxs x List.mem_cons_self))
    | cons y ys =>
      obtain ⟨hx, hothers⟩ := List.forall_mem_cons.1 hxs
      obtain ⟨hy, hothers'⟩ := List.forall_mem_cons.1 hys
      rw [intercalate_append, intercalate_append] at h
      obtain ⟨rfl, hrest⟩ := hx.append_inj hy (endsHere_following hc.endsHere _)
        (endsHere_following hc.endsHere _) h
      rw [following_inj hc hothers hothers' hrest]

/-- Between brackets, closed texts leave none open. -/
theorem after?_intercalate (h : ∀ x ∈ xs, IsClosed x) (depth : Nat) :
    Place.after? ⟨depth + 1, .outside⟩ (", ".intercalate xs) = some ⟨depth + 1, .outside⟩ := by
  induction xs with
  | nil => rfl
  | cons x xs ih =>
    obtain ⟨hx, hxs⟩ := List.forall_mem_cons.1 h
    cases xs with
    | nil => rw [String.intercalate_singleton, hx.after?]
    | cons y ys =>
      have hcomma : Place.after? ⟨depth + 1, .outside⟩ ", " = some ⟨depth + 1, .outside⟩ := rfl
      rw [String.intercalate_cons_cons, Place.after?_append, Place.after?_append, hx.after?,
        Option.bind_some, hcomma, Option.bind_some, ih hxs]

/-- Closed texts between brackets are a closed text. -/
theorem isClosed_bracketed
    (ho : ∀ depth, Place.after? ⟨depth, .outside⟩ opening = some ⟨depth + 1, .outside⟩)
    (hc : ∀ depth, Place.after? ⟨depth + 1, .outside⟩ closing = some ⟨depth, .outside⟩)
    (h : ∀ x ∈ xs, IsClosed x) : IsClosed (opening ++ ", ".intercalate xs ++ closing) := by
  refine ⟨fun hempty => ?_, fun depth => ?_⟩
  · have hafter := ho 0
    rw [String.append_eq_empty_iff, String.append_eq_empty_iff] at hempty
    rw [hempty.1.1] at hafter
    cases hafter
  · rw [Place.after?_append, Place.after?_append, ho, Option.bind_some, after?_intercalate h,
      Option.bind_some, hc]

/-- A name with a text, as a member of an object. -/
def memberText (member : String × String) : String := jsonString member.1 ++ ": " ++ member.2

theorem isClosed_memberText {member : String × String} (h : IsClosed member.2) :
    IsClosed (memberText member) := by
  refine ⟨fun hempty => ?_, fun depth => ?_⟩
  · rw [memberText, String.append_eq_empty_iff] at hempty
    exact h.ne hempty.2
  · have hcolon : Place.after? ⟨depth, .outside⟩ ": " = some ⟨depth, .outside⟩ := rfl
    rw [memberText, Place.after?_append, Place.after?_append, (isClosed_jsonString _).after?,
      Option.bind_some, hcolon, Option.bind_some, h.after?]

/-- The text of a member tells its name and its value. -/
theorem memberText_injective : Function.Injective memberText := by
  rintro ⟨k, v⟩ ⟨l, w⟩ h
  rw [memberText, memberText, String.append_assoc, String.append_assoc] at h
  obtain ⟨hname, hrest⟩ := jsonString_append_inj h
  rw [String.append_right_inj] at hrest
  exact Prod.ext hname hrest

end Text

namespace Wire

open Text

variable {sorted : Bool} {vs ws : List Wire}

theorem jsonItems_eq (sorted : Bool) (items : List Wire) :
    jsonItems sorted items = items.map (json sorted) := by
  induction items with
  | nil => rfl
  | cons w rest ih => rw [jsonItems, ih, List.map_cons]

theorem jsonMembers_eq (sorted : Bool) (members : Dict Wire) :
    jsonMembers sorted members = members.map fun e => (keyText e.1, e.2.json sorted) := by
  induction members with
  | nil => rfl
  | cons e rest ih => rw [jsonMembers, ih, List.map_cons]

/-! ## Arrays -/

theorem isClosed_array (h : ∀ w ∈ vs, IsClosed (w.json sorted)) :
    IsClosed ((array vs).json sorted) := by
  rw [json, jsonItems_eq]
  exact isClosed_bracketed (fun _ => rfl) (fun _ => rfl) (List.forall_mem_map.2 h)

/-- **Arrays have one text just if their elements have.** -/
theorem json_array_eq_iff (hvs : ∀ w ∈ vs, IsClosed (w.json sorted))
    (hws : ∀ w ∈ ws, IsClosed (w.json sorted)) : (array vs).json sorted = (array ws).json sorted ↔
      vs.map (json sorted) = ws.map (json sorted) := by
  rw [json, json, jsonItems_eq, jsonItems_eq, String.append_assoc, String.append_assoc,
    String.append_right_inj]
  exact intercalate_inj (.inl rfl) (List.forall_mem_map.2 hvs) (List.forall_mem_map.2 hws)

/-! ## Objects -/

theorem mem_arrange {member : String × String} {members : List (String × String)} :
    member ∈ arrange sorted members ↔ member ∈ members := by
  cases sorted with
  | false => rfl
  | true => exact (List.mergeSort_perm members _).mem_iff

theorem isClosed_object {members : Dict Wire} (h : ∀ e ∈ members, IsClosed (e.2.json sorted)) :
    IsClosed ((object members).json sorted) := by
  rw [json, objectText, jsonMembers_eq]
  refine isClosed_bracketed (fun _ => rfl) (fun _ => rfl) (List.forall_mem_map.2 fun member hmem => ?_)
  rw [mem_arrange] at hmem
  obtain ⟨e, he, rfl⟩ := List.mem_map.1 hmem
  exact isClosed_memberText (h e he)

/-- The members of an object in ascending order are told by its text. -/
theorem objectText_inj {ms ns : List (String × String)} (hms : ∀ member ∈ ms, IsClosed member.2)
    (hns : ∀ member ∈ ns, IsClosed member.2) : objectText ms = objectText ns ↔ ms = ns := by
  have hopen : ∀ ms : List (String × String),
      objectText ms = "\x7b" ++ (", ".intercalate (ms.map memberText) ++ "\x7d") := fun ms => by
    rw [objectText, String.append_assoc]
    rfl
  rw [hopen, hopen, String.append_right_inj, intercalate_inj (.inr rfl)
    (List.forall_mem_map.2 fun m hm => isClosed_memberText (hms m hm))
    (List.forall_mem_map.2 fun m hm => isClosed_memberText (hns m hm))]
  exact memberText_injective.list_map.eq_iff

/-- Members of distinct names have one ascending order. -/
theorem arrange_eq_iff {ms ns : List (String × String)} (hms : ms.Pairwise fun a b => a.1 ≠ b.1) :
    arrange true ms = arrange true ns ↔ ms.Perm ns := by
  have hperm : ∀ ms : List (String × String), (arrange true ms).Perm ms :=
    fun ms => List.mergeSort_perm ms _
  have hsorted : ∀ ms : List (String × String), (arrange true ms).Pairwise fun a b => a.1 ≤ b.1 := by
    intro ms
    refine (List.pairwise_mergeSort ?_ ?_ ms).imp of_decide_eq_true
    · intro a b c hab hbc
      exact decide_eq_true (String.le_trans (of_decide_eq_true hab) (of_decide_eq_true hbc))
    · intro a b
      rw [Bool.or_eq_true, decide_eq_true_eq, decide_eq_true_eq]
      exact String.le_total a.1 b.1
  constructor
  · intro h
    exact (hperm ms).symm.trans (h ▸ hperm ns)
  · intro h
    refine List.Perm.eq_of_pairwise (fun a b ha hb hab hba => ?_) (hsorted ms) (hsorted ns)
      ((hperm ms).trans (h.trans (hperm ns).symm))
    have hsymm : Std.Symm fun a b : String × String => a.1 ≠ b.1 := ⟨fun _ _ => Ne.symm⟩
    by_contra hne
    exact hms.forall ((hperm ms).mem_iff.1 ha) (h.mem_iff.2 ((hperm ns).mem_iff.1 hb)) hne
      (String.le_antisymm hab hba)

section Members

variable {α : Type} {f : α → Wire} {as bs : Dict α}

/-- The names and texts that the entries of a dictionary are written with. -/
def writtenMembers (f : α → Wire) (d : Dict α) : List (String × String) :=
  d.map fun e => (keyText e.1, (f e.2).json true)

/-- Every key is a text. -/
def AreNamed (d : Dict α) : Prop := ∀ e ∈ d, e.1.isText = true

/-- Only a text addresses an entry of a dictionary whose keys are texts. -/
theorem AreNamed.exists_text (hnamed : AreNamed as) {key : Key} {a : α} (h : as.get? key = some a) :
    ∃ s, key = .text s ∧ (.text s, a) ∈ as := by
  obtain ⟨k, hmem, hsame⟩ := Dict.exists_mem_of_get? h
  have hk := hnamed _ hmem
  cases k with
  | text s =>
    rw [Key.same_comm] at hsame
    exact ⟨s, Key.eq_text_of_same hsame, hmem⟩
  | _ => cases hk

theorem mem_writtenMembers (hd : Dict.Distinct as) (hnamed : AreNamed as) {member : String × String} :
    member ∈ writtenMembers f as ↔
      ∃ a, as.get? (.text member.1) = some a ∧ (f a).json true = member.2 := by
  constructor
  · intro hmem
    obtain ⟨⟨k, a⟩, he, rfl⟩ := List.mem_map.1 hmem
    have hk := hnamed _ he
    cases k with
    | text s => exact ⟨a, hd.get?_of_mem he, rfl⟩
    | _ => cases hk
  · rintro ⟨a, ha, hjson⟩
    obtain ⟨s, hs, hmem⟩ := hnamed.exists_text ha
    cases hs
    exact List.mem_map.2 ⟨_, hmem, Prod.ext rfl hjson⟩

theorem pairwise_writtenMembers (hd : Dict.Distinct as) (hnamed : AreNamed as) :
    (writtenMembers f as).Pairwise fun a b => a.1 ≠ b.1 := by
  rw [writtenMembers, List.pairwise_map]
  refine List.Pairwise.imp_of_mem (fun {a b} ha hb hab => ?_) hd
  have hka := hnamed a ha
  have hkb := hnamed b hb
  obtain ⟨k, v⟩ := a
  obtain ⟨l, w⟩ := b
  cases k with
  | text s =>
    cases l with
    | text u => simpa [keyText, keyText?] using hab
    | _ => cases hkb
  | _ => cases hka

/-- What is the same under each name is written alike. -/
theorem mem_writtenMembers_of_same (has : Dict.Distinct as) (hbs : Dict.Distinct bs)
    (hnamed : AreNamed as) (hnamed' : AreNamed bs) (hkeys : Dict.SameKeys as bs)
    (htexts : ∀ key a b, as.get? key = some a → bs.get? key = some b →
      (f a).json true = (f b).json true) {member : String × String}
    (h : member ∈ writtenMembers f as) : member ∈ writtenMembers f bs := by
  obtain ⟨a, ha, hjson⟩ := (mem_writtenMembers has hnamed).1 h
  obtain ⟨b, hb⟩ := hkeys.exists_get? ha
  exact (mem_writtenMembers hbs hnamed').2 ⟨b, hb, (htexts _ a b ha hb).symm.trans hjson⟩

/-- What is written under each name is there under each name. -/
theorem exists_of_writtenMembers (has : Dict.Distinct as) (hbs : Dict.Distinct bs)
    (hnamed : AreNamed as) (hnamed' : AreNamed bs)
    (h : ∀ member ∈ writtenMembers f as, member ∈ writtenMembers f bs) {key : Key} {a : α}
    (ha : as.get? key = some a) : ∃ b, bs.get? key = some b ∧ (f b).json true = (f a).json true := by
  obtain ⟨s, rfl, -⟩ := hnamed.exists_text ha
  exact (mem_writtenMembers hbs hnamed').1
    (h (s, (f a).json true) ((mem_writtenMembers has hnamed).2 ⟨a, ha, rfl⟩))

/-- **Objects have one text just if they have the same names, and one text under each.** -/
theorem json_object_eq_iff (has : Dict.Distinct as) (hbs : Dict.Distinct bs) (hnamed : AreNamed as)
    (hnamed' : AreNamed bs) (hclosed : ∀ e ∈ as, IsClosed ((f e.2).json true))
    (hclosed' : ∀ e ∈ bs, IsClosed ((f e.2).json true)) :
    (object (as.map fun e => (e.1, f e.2))).json true =
        (object (bs.map fun e => (e.1, f e.2))).json true ↔
      Dict.SameKeys as bs ∧ ∀ key a b, as.get? key = some a → bs.get? key = some b →
        (f a).json true = (f b).json true := by
  have hmembers : ∀ d : Dict α, (object (d.map fun e => (e.1, f e.2))).json true =
      objectText (arrange true (writtenMembers f d)) := fun d => by
    rw [json, jsonMembers_eq, List.map_map]
    rfl
  have hnodup : ∀ {d : Dict α}, Dict.Distinct d → AreNamed d → (writtenMembers f d).Nodup :=
    fun hd hnamed => (pairwise_writtenMembers hd hnamed).imp fun hne heq => hne (by rw [heq])
  rw [hmembers, hmembers, objectText_inj, arrange_eq_iff (pairwise_writtenMembers has hnamed),
    List.perm_ext_iff_of_nodup (hnodup has hnamed) (hnodup hbs hnamed')]
  · constructor
    · intro h
      have hforth := fun {key a} => @exists_of_writtenMembers _ f as bs has hbs hnamed hnamed'
        (fun member => (h member).1) key a
      have hback := fun {key a} => @exists_of_writtenMembers _ f bs as hbs has hnamed' hnamed
        (fun member => (h member).2) key a
      refine ⟨fun key => ?_, fun key a b ha hb => ?_⟩
      · rw [Dict.has, Dict.has, Bool.eq_iff_iff, Option.isSome_iff_exists, Option.isSome_iff_exists]
        constructor
        · rintro ⟨a, ha⟩
          exact (hforth ha).imp fun _ => And.left
        · rintro ⟨b, hb⟩
          exact (hback hb).imp fun _ => And.left
      · obtain ⟨b', hb', hjson⟩ := hforth ha
        cases hb.symm.trans hb'
        exact hjson.symm
    · rintro ⟨hkeys, htexts⟩ member
      exact ⟨mem_writtenMembers_of_same has hbs hnamed hnamed' hkeys htexts,
        mem_writtenMembers_of_same hbs has hnamed' hnamed (fun key => (hkeys key).symm)
          fun key a b ha hb => (htexts key b a hb ha).symm⟩
  · intro member hmem
    rw [mem_arrange] at hmem
    obtain ⟨e, he, rfl⟩ := List.mem_map.1 hmem
    exact hclosed e he
  · intro member hmem
    rw [mem_arrange] at hmem
    obtain ⟨e, he, rfl⟩ := List.mem_map.1 hmem
    exact hclosed' e he

end Members

end Wire

end DocMapper
