import DocMapper.Proofs.Data.Distinct
import DocMapper.Proofs.Data.Outcome
import DocMapper.Proofs.Wire.Decoding
import DocMapper.Wire.Reading
/-!
# What a JSON text spells

A text that is read as JSON spells JSON data (`Wire.isJson_of_ofJson`): no tuples, nothing that JSON
has no notation for, and objects whose keys are texts.

What the tags in it stand for may not be what they should. `Wire.isDecoded_decode` says with
which faults decoding ends then.
-/

namespace DocMapper.Wire

/-- JSON data. -/
inductive IsJson : Wire → Prop
  | null : IsJson .null
  | bool (b : Bool) : IsJson (.bool b)
  | int (n : Int) : IsJson (.int n)
  | float (x : Binary64) : IsJson (.float x)
  | text (s : String) : IsJson (.text s)
  | array {items : List Wire} (h : ∀ w ∈ items, IsJson w) : IsJson (.array items)
  | object {members : Dict Wire} (hkeys : ∀ e ∈ members, e.1.isText = true)
    (hvalues : ∀ e ∈ members, IsJson e.2) : IsJson (.object members)

/-- The object of some read members: a repeated one counts once. -/
theorem IsJson.ofEntries {members : List (Key × Wire)} (hkeys : ∀ e ∈ members, e.1.isText = true)
    (hvalues : ∀ e ∈ members, IsJson e.2) : IsJson (.object (Dict.ofEntries members)) := by
  refine .object (fun e he => ?_) (Dict.forall_mem_putAll (by simp) hvalues)
  rcases Dict.mem_keys_putAll (List.mem_map_of_mem he) with hnone | hkey
  · cases hnone
  · obtain ⟨e', he', heq⟩ := List.mem_map.1 hkey
    rw [← heq]
    exact hkeys e' he'

/-! ## Leaves -/

theorem isJson_of_readInteger {negative : Bool} {digits : List Char} {w : Wire}
    (h : readInteger negative digits = .ok w) : w.IsJson := by
  rw [readInteger] at h
  split at h
  · cases h
  · cases h
    exact .int _

theorem isJson_of_readNumber {source rest : List Char} {w : Wire}
    (h : readNumber source = .ok (w, rest)) : w.IsJson := by
  simp only [readNumber] at h
  obtain ⟨-, h⟩ | ⟨-, h⟩ := ite_eq_iff.1 h
  · cases h
  · generalize Decimal.exponent? _ = exponent at h
    cases exponent with
    | some =>
      cases h
      exact .float _
    | none =>
      obtain ⟨-, h⟩ | ⟨-, h⟩ := ite_eq_iff.1 h
      · obtain ⟨n, hn, h⟩ := Except.bind_eq_ok.1 h
        cases h
        exact isJson_of_readInteger hn
      · cases h
        exact .float _

theorem isJson_of_mem_words : ∀ word ∈ words, word.2.IsJson := by
  simp only [words, List.forall_mem_cons]
  exact ⟨.null, .bool _, .bool _, .float _, .float _, .float _, nofun⟩

theorem isJson_of_readLeaf {source rest : List Char} {w : Wire}
    (h : readLeaf source = .ok (w, rest)) : w.IsJson := by
  rw [readLeaf] at h
  split at h
  · rename_i word hword
    cases h
    exact isJson_of_mem_words word (List.mem_of_find?_eq_some hword)
  · exact isJson_of_readNumber h

/-! ## Composed data -/

/-- What a reader with some fuel reads is JSON data. -/
structure ReadsJson (fuel : Nat) : Prop where
  value : ∀ source w rest, readValue fuel source = .ok (w, rest) → IsJson w
  items : ∀ read source items rest, (∀ w ∈ read, IsJson w) →
    readItems fuel read source = .ok (items, rest) → ∀ w ∈ items, IsJson w
  members : ∀ read source members rest, (∀ e ∈ read, e.1.isText = true ∧ IsJson e.2) →
    readMembers fuel read source = .ok (members, rest) →
    ∀ e ∈ members, e.1.isText = true ∧ IsJson e.2

/-- A value that was read is a text, an array or object of what was read with less fuel, or a
leaf. -/
theorem ReadsJson.value_succ {fuel : Nat} (ih : ReadsJson fuel) {source rest : List Char} {w : Wire}
    (h : readValue (fuel + 1) source = .ok (w, rest)) : w.IsJson := by
  unfold readValue at h
  split at h
  · obtain ⟨⟨s, after⟩, -, h⟩ := Except.bind_eq_ok.1 h
    cases h
    exact .text s
  · split at h
    · cases h
      exact .array nofun
    · obtain ⟨⟨items, after⟩, hitems, h⟩ := Except.bind_eq_ok.1 h
      cases h
      exact .array (ih.items _ _ _ _ (List.forall_mem_nil _) hitems)
  · split at h
    · cases h
      exact .object nofun nofun
    · obtain ⟨⟨members, after⟩, hmembers, h⟩ := Except.bind_eq_ok.1 h
      cases h
      have hread := ih.members _ _ _ _ (List.forall_mem_nil _) hmembers
      exact .ofEntries (fun e he => (hread e he).1) fun e he => (hread e he).2
  · exact isJson_of_readLeaf h

/-- The elements that were read are those read before, one more and the others. -/
theorem ReadsJson.items_succ {fuel : Nat} (ih : ReadsJson fuel) {read items : List Wire}
    {source rest : List Char} (hread : ∀ w ∈ read, w.IsJson)
    (h : readItems (fuel + 1) read source = .ok (items, rest)) : ∀ w ∈ items, w.IsJson := by
  unfold readItems at h
  obtain ⟨⟨item, after⟩, hitem, h⟩ := Except.bind_eq_ok.1 h
  have hmore : ∀ w ∈ item :: read, w.IsJson :=
    List.forall_mem_cons.2 ⟨ih.value _ _ _ hitem, hread⟩
  dsimp only at h
  split at h
  · exact ih.items _ _ _ _ hmore h
  · cases h
    exact fun w hw => hmore w (List.mem_reverse.1 hw)
  · cases h

/-- The members that were read are those read before, one more and the others. -/
theorem ReadsJson.members_succ {fuel : Nat} (ih : ReadsJson fuel) {read members : List (Key × Wire)}
    {source rest : List Char} (hread : ∀ e ∈ read, e.1.isText = true ∧ e.2.IsJson)
    (h : readMembers (fuel + 1) read source = .ok (members, rest)) :
    ∀ e ∈ members, e.1.isText = true ∧ e.2.IsJson := by
  unfold readMembers at h
  split at h
  · obtain ⟨⟨key, after⟩, -, h⟩ := Except.bind_eq_ok.1 h
    dsimp only at h
    split at h
    · obtain ⟨⟨value, after⟩, hvalue, h⟩ := Except.bind_eq_ok.1 h
      have hmore : ∀ e ∈ (Key.text key, value) :: read, e.1.isText = true ∧ e.2.IsJson :=
        List.forall_mem_cons.2 ⟨⟨rfl, ih.value _ _ _ hvalue⟩, hread⟩
      dsimp only at h
      split at h
      · exact ih.members _ _ _ _ hmore h
      · cases h
        exact fun e he => hmore e (List.mem_reverse.1 he)
      · cases h
    · cases h
  · cases h

theorem readsJson (fuel : Nat) : ReadsJson fuel := by
  induction fuel with
  | zero => exact ⟨nofun, nofun, nofun⟩
  | succ fuel ih =>
    exact ⟨fun _ _ _ h => ih.value_succ h, fun _ _ _ _ hread h => ih.items_succ hread h,
      fun _ _ _ _ hread h => ih.members_succ hread h⟩

/-- **What a text spells is JSON data.** -/
theorem isJson_of_ofJson {text : String} {w : Wire} (h : ofJson text = .ok w) : w.IsJson := by
  obtain ⟨⟨value, rest⟩, hvalue, h⟩ := Except.bind_eq_ok.1 h
  obtain ⟨-, h⟩ | ⟨-, h⟩ := ite_eq_iff.1 h
  · cases h
    exact (readsJson _).value _ _ _ hvalue
  · cases h

/-! ## Faults of decoding -/

/-- The fault is one that decoding can end with. -/
inductive IsDecodingFault : Fault → Prop
  | wrongKind : IsDecodingFault wrongKind
  | noMember : IsDecodingFault noMember
  | badValue : IsDecodingFault badValue
  | badPadding : IsDecodingFault (.misuse .badPadding)
  | missingKey (shown : String) : IsDecodingFault (.missingKey shown)
  /-- what is tagged as a reference is none -/
  | rejected (issues : List Issue) : IsDecodingFault (.rejected "Ref" issues)

/-- An outcome of decoding: a result, or a fault that decoding can end with. -/
def IsDecoded {α : Type} (r : Except Fault α) : Prop :=
  ∀ fault, r = .error fault → IsDecodingFault fault

theorem IsDecoded.ok {α : Type} (a : α) : IsDecoded (.ok a : Except Fault α) := nofun

theorem IsDecoded.error {α : Type} {fault : Fault} (h : IsDecodingFault fault) :
    IsDecoded (.error fault : Except Fault α) := by
  intro e he
  cases he
  exact h

theorem IsDecoded.bind {α β : Type} {r : Except Fault α} {next : α → Except Fault β}
    (hr : IsDecoded r) (hnext : ∀ a, IsDecoded (next a)) : IsDecoded (r >>= next) := by
  cases r with
  | error fault => exact .error (hr fault rfl)
  | ok a => exact hnext a

theorem isDecoded_decodeTimestamp (w : Wire) : IsDecoded (decodeTimestamp w) := by
  unfold decodeTimestamp
  split
  · split
    · exact .ok _
    · exact .error .badValue
  · exact .error .noMember

theorem isDecoded_decodeDate (w : Wire) : IsDecoded (decodeDate w) := by
  unfold decodeDate
  split
  · split
    · exact .ok _
    · exact .error .badValue
  · exact .error .wrongKind

theorem isDecoded_decodeBytes (w : Wire) : IsDecoded (decodeBytes w) := by
  unfold decodeBytes
  split
  · split
    · split
      · exact .ok _
      · exact .error .badPadding
    · exact .error .badValue
  · exact .error .wrongKind

theorem isDecoded_orReject {α : Type} (c : Checked α) : IsDecoded (Checked.orReject "Ref" c) := by
  cases c with
  | ok a => exact .ok a
  | error refusal =>
    cases refusal with
    | mismatch flaws => exact .error (.rejected _)
    | incomparable => exact .error .wrongKind

/-- Each member is decoded. -/
def MembersDecode (members : Dict (Wire × Except Fault Value)) : Prop :=
  ∀ e ∈ members, IsDecoded e.2.2

theorem MembersDecode.part {members : Dict (Wire × Except Fault Value)} (h : MembersDecode members)
    (name : String) : IsDecoded (decodedPart members name) := by
  rw [decodedPart]
  cases hget : members.get? name with
  | none => exact .ok _
  | some part =>
    obtain ⟨k, hmem, -⟩ := Dict.exists_mem_of_get? hget
    exact h _ hmem

theorem isDecoded_decodeRef {members : Dict (Wire × Except Fault Value)}
    (h : MembersDecode members) : IsDecoded (decodeRef members) := by
  cases hid : members.get? "id" with
  | none =>
    simp only [decodeRef, hid]
    exact .error (.missingKey _)
  | some id =>
    rw [decodeRef_eq hid]
    exact .bind (h.part "collection") fun collection => .bind (h.part "database") fun database =>
      .bind (isDecoded_orReject _) fun r => .ok _

theorem isDecoded_collect {items : List (Except Fault Value)} (h : ∀ r ∈ items, IsDecoded r) :
    IsDecoded (collect items) := by
  induction items with
  | nil => exact .ok _
  | cons r rest ih =>
    obtain ⟨hhead, htail⟩ := List.forall_mem_cons.1 h
    exact .bind hhead fun v => .bind (ih htail) fun vs => .ok _

theorem isDecoded_collectMembers {members : Dict (Wire × Except Fault Value)}
    (h : MembersDecode members) : IsDecoded (collectMembers members) := by
  induction members with
  | nil => exact .ok _
  | cons e rest ih =>
    obtain ⟨k, w, r⟩ := e
    obtain ⟨hhead, htail⟩ := List.forall_mem_cons.1 h
    exact .bind hhead fun v => .bind (ih htail) fun vs => .ok _

mutual

/-- **The faults of decoding.** -/
theorem isDecoded_decode : (w : Wire) → IsDecoded w.decode
  | .array items => by
    rw [decode]
    exact .bind (isDecoded_collect (isDecoded_decodeItems items)) fun vs => .ok _
  | .object [(key, inner)] => by
    have hinner := isDecoded_decode inner
    unfold decode
    split
    · split
      · exact isDecoded_decodeRef (membersDecode_decodeMembers _)
      · exact .error .wrongKind
    · split
      · exact .bind (isDecoded_collectMembers (membersDecode_decodeMembers _)) fun vs => .ok _
      · exact .error .noMember
    · exact isDecoded_decodeTimestamp inner
    · exact isDecoded_decodeDate inner
    · exact hinner
    · exact isDecoded_decodeBytes inner
    · exact .bind hinner fun v => .ok _
  | .object [] => .ok _
  | .object (e :: e' :: rest) =>
    .bind (isDecoded_collectMembers (membersDecode_decodeMembers (e :: e' :: rest))) fun vs => .ok _
  | .null | .bool _ | .int _ | .float _ | .text _ | .tuple _ | .foreign _ _ => .ok _

theorem isDecoded_decodeItems : (items : List Wire) → ∀ r ∈ decodeItems items, IsDecoded r
  | [], _, hr => by cases hr
  | w :: rest, r, hr => by
    rw [decodeItems] at hr
    rcases List.mem_cons.1 hr with rfl | hr
    · exact isDecoded_decode w
    · exact isDecoded_decodeItems rest r hr

theorem membersDecode_decodeMembers : (members : List (Key × Wire)) →
    MembersDecode (decodeMembers members)
  | [], _, he => by cases he
  | (k, w) :: rest, e, he => by
    rw [decodeMembers] at he
    rcases List.mem_cons.1 he with rfl | he
    · exact isDecoded_decode w
    · exact membersDecode_decodeMembers rest e he

end

end DocMapper.Wire
