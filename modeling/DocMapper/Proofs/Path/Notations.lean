import DocMapper.Path
/-!
# The notations of a path agree

A path can be written as a text with dots, as the list of its keys, or as an accessor that reads one
key after another (`Read`), each as an item or, unless its name is reserved, as a member. For keys
that are not empty and have no dots in them the three resolve to the same keys, with one exception:
the record in which the stand-in document notes the keys is a member of it, so that an accessor that
reads its name (`Recording.ownMember`) comes to stand at that list and the name is not noted
(`notations_agree_iff`).

Whatever the notation, the keys that it yields make a path if there are some and none is empty.
-/

namespace DocMapper

/-- The fault of a path that has no keys or an empty one. -/
def unkeyed (path : Value) : Fault :=
  .misconfigured "resolve_path" path "path must contain at least one key"

/-- Ends with the fault of something that is not declared as it has to be. -/
def Misconfigured {α : Type} (result : Except Fault α) : Prop :=
  ∃ operation target message, result = .error (.misconfigured operation target message)

section

variable {path : Value} {keys : List String} {fault : Fault}

theorem resolvePath_of_error (h : pathKeys path = .error fault) :
    resolvePath path = .error fault := by
  rw [resolvePath, h]
  rfl

theorem resolvePath_of_ok (h : pathKeys path = .ok keys) :
    resolvePath path = if keys = [] ∨ "" ∈ keys then .error (unkeyed path) else .ok keys := by
  rw [resolvePath, h]
  have hkeys : (keys.isEmpty || keys.any String.isEmpty) = true ↔ keys = [] ∨ "" ∈ keys := by
    simp [List.any_eq_true]
  exact ite_congr (propext hkeys) (fun _ => rfl) fun _ => rfl

/-- What a path resolves to is what its notation yields. -/
theorem pathKeys_of_resolvePath (h : resolvePath path = .ok keys) : pathKeys path = .ok keys := by
  cases hkeys : pathKeys path with
  | error fault =>
    rw [resolvePath_of_error hkeys] at h
    cases h
  | ok keys' =>
    rw [resolvePath_of_ok hkeys] at h
    split at h
    · cases h
    · exact h

theorem resolvePath_eq_ok (h : pathKeys path = .ok keys) (hne : keys ≠ [])
    (hkeys : ∀ key ∈ keys, key ≠ "") : resolvePath path = .ok keys := by
  rw [resolvePath_of_ok h, if_neg]
  rintro (hnil | hempty)
  · exact hne hnil
  · exact hkeys _ hempty rfl

theorem misconfigured_resolvePath_iff (h : pathKeys path = .ok keys) :
    Misconfigured (resolvePath path) ↔ keys = [] ∨ "" ∈ keys := by
  rw [resolvePath_of_ok h]
  split
  · exact iff_of_true ⟨_, _, _, rfl⟩ ‹_›
  · exact iff_of_false (by rintro ⟨_, _, _, ⟨⟩⟩) ‹_›

end

/-! ## Texts and lists -/

theorem splitDots_ne_nil (text : String) : splitDots text ≠ [] := by
  simp [splitDots, List.splitOn, List.splitOnP_ne_nil]

/-- Keys without dots are the parts of the text that joins them with dots. -/
theorem splitDots_intercalate {keys : List String} (hne : keys ≠ [])
    (hdots : ∀ key ∈ keys, '.' ∉ key.toList) : splitDots (".".intercalate keys) = keys := by
  have hsplit : (['.'].intercalate (keys.map String.toList)).splitOn '.' = keys.map String.toList :=
    List.splitOn_intercalate '.' (by simpa using hdots) (by simpa using hne)
  rw [splitDots, String.toList_intercalate]
  simp [hsplit, Function.comp_def]

theorem pathKeys_list (items : List Value) :
    pathKeys (.list items) = .ok (items.map Value.toText) := rfl

theorem pathKeys_texts (keys : List String) : pathKeys (.list (keys.map Value.text)) = .ok keys := by
  simp [pathKeys_list, Function.comp_def, Value.toText]

/-! ## Accessors -/

/-- A read of one key, as an item or as a member. -/
inductive Read
  | item (key : String)
  | member (key : String)
  deriving DecidableEq

namespace Read

/-- The key that is read. -/
def key : Read → String
  | item key | member key => key

/-- The step that an accessor takes for the read. -/
def step : Read → Step
  | item key => .item key none
  | member key => .attribute key

/-- An accessor may read any item, and members whose names are not reserved. -/
def Allowed : Read → Prop
  | item _ => True
  | member key => Recording.reserved key = false

instance : DecidablePred Allowed
  | item _ => inferInstanceAs (Decidable True)
  | member key => inferInstanceAs (Decidable (Recording.reserved key = false))

/-- The read of the stand-in document's own record of keys. -/
def own : Read := member Recording.ownMember

/-- Reads that can be followed from the record of keys: it has the members of a list, which are
functions and have no members themselves but reserved ones. -/
def Followed : List Read → Prop
  | [] => True
  | [member name] => name ∈ Place.listMembers
  | _ => False

end Read

namespace Place

variable {name : String} {place : Place}

theorem reserved_dunder (name : String) : Recording.reserved (dunder name) = true := by
  have hprefix : ['_', '_'] <+: (dunder name).toList :=
    ⟨name.toList ++ ['_', '_'], by simp [dunder]⟩
  have hsuffix : ['_', '_'] <:+ (dunder name).toList :=
    ⟨'_' :: '_' :: name.toList, by simp [dunder]⟩
  simp [Recording.reserved, List.isPrefixOf_iff_prefix.2 hprefix,
    List.isSuffixOf_iff_suffix.2 hsuffix]

theorem notMem_map_dunder (h : Recording.reserved name = false) (names : List String) :
    name ∉ names.map dunder := by
  intro hmem
  obtain ⟨word, -, rfl⟩ := List.mem_map.1 hmem
  rw [reserved_dunder] at h
  cases h

theorem member?_of_notMem (h : Recording.reserved name = false) (hmem : name ∉ place.members) :
    place.member? name = none := by
  have hinborn : name ∉ inborn := by
    rw [inborn]
    exact notMem_map_dunder h _
  have hno : (!(inborn.contains name || place.members.contains name)) = true := by
    simp only [List.contains_eq_mem, hinborn, hmem, decide_false, Bool.or_self, Bool.not_false]
  unfold member?
  exact if_pos hno

theorem member?_document (h : Recording.reserved name = false) : document.member? name = none := by
  refine member?_of_notMem h ?_
  rw [members, ownFunctions, ← List.map_cons, ← List.map_cons]
  exact notMem_map_dunder h _

theorem member?_function (h : Recording.reserved name = false) (owner : Place) :
    (function owner false).member? name = none := by
  refine member?_of_notMem h ?_
  rw [members, functionMembers]
  exact notMem_map_dunder h _

/-- The members of a list are functions, the inborn ones aside. -/
theorem member?_record (h : Recording.reserved name = false) (hmem : name ∈ listMembers) :
    record.member? name = some (.function .record false) := by
  have hvalues : name ∉ inbornValues := by
    rw [inbornValues]
    exact notMem_map_dunder h _
  have hyes : ¬ (!(inborn.contains name || record.members.contains name)) = true := by
    rw [members]
    simp only [List.contains_eq_mem, hmem, decide_true, Bool.or_true, Bool.not_true,
      Bool.false_eq_true, not_false_iff]
  unfold member?
  rw [if_neg hyes]
  simp only [List.contains_eq_mem, hvalues, decide_false, Bool.false_eq_true, if_false]

end Place

namespace Recording

variable {keys : List String} {reads rest : List Read} {r : Read}

theorem step_member_of_some {place next : Place} {name : String}
    (h : place.member? name = some next) :
    step ⟨keys, place⟩ (Read.member name).step = .ok ⟨keys, next⟩ := by
  rw [Read.step, step]
  unfold readMember
  dsimp only
  rw [h]

theorem step_member_of_none {place : Place} {name : String} (h : place.member? name = none)
    (hplace : place ≠ .document) :
    step ⟨keys, place⟩ (Read.member name).step = .error noMember := by
  rw [Read.step, step]
  unfold readMember
  dsimp only
  rw [h]
  exact if_pos hplace

/-- In the document every name that is not reserved is a key, but for that of the record. -/
theorem step_member {name : String} (h : reserved name = false) :
    step ⟨keys, .document⟩ (Read.member name).step =
      .ok (if name = ownMember then ⟨keys, .record⟩ else ⟨keys ++ [name], .document⟩) := by
  rw [Read.step, step]
  unfold readMember
  dsimp only
  rw [Place.member?_document h, h]
  dsimp only
  rw [if_neg fun hne => hne rfl]
  split <;> rfl

theorem step_document (hr : r.Allowed) (hown : r ≠ .own) :
    step ⟨keys, .document⟩ r.step = .ok ⟨keys ++ [r.key], .document⟩ := by
  cases r with
  | item key => rfl
  | member name =>
    have hname : name ≠ ownMember := fun h => hown (congrArg Read.member h)
    rw [step_member hr, if_neg hname, Read.key]

theorem step_own : step ⟨keys, .document⟩ Read.own.step = .ok ⟨keys, .record⟩ := by
  rw [Read.own, step_member (by decide), if_pos rfl]

theorem replay_cons_of_ok {s : Step} {steps : List Step} {from_ to_ : Recording}
    (h : from_.step s = .ok to_) : replay (s :: steps) from_ = replay steps to_ := by
  rw [replay, h]
  rfl

theorem replay_cons_of_error {s : Step} {steps : List Step} {from_ : Recording} {fault : Fault}
    (h : from_.step s = .error fault) : replay (s :: steps) from_ = .error fault := by
  rw [replay, h]
  rfl

/-- Reads note their keys, up to the first that reads the record itself. -/
theorem replay_append (hreads : ∀ r ∈ reads, r.Allowed) (hown : .own ∉ reads) (steps : List Step) :
    replay (reads.map Read.step ++ steps) ⟨keys, .document⟩ =
      replay steps ⟨keys ++ reads.map Read.key, .document⟩ := by
  induction reads generalizing keys with
  | nil => simp
  | cons r reads ih =>
    obtain ⟨hr, hreads⟩ := List.forall_mem_cons.1 hreads
    obtain ⟨hne, hown⟩ := List.ne_and_not_mem_of_not_mem_cons hown
    rw [List.map_cons, List.cons_append, replay_cons_of_ok (step_document hr (Ne.symm hne)),
      ih hreads hown]
    simp

variable (keys) in
/-- What can be read from the record leaves the keys as they are. -/
theorem replay_record_of_followed (hrest : ∀ r ∈ rest, r.Allowed) (h : Read.Followed rest) :
    ∃ place, replay (rest.map Read.step) ⟨keys, .record⟩ = .ok ⟨keys, place⟩ := by
  match rest, h with
  | [], _ => exact ⟨.record, rfl⟩
  | [.member name], h =>
    have hmember := Place.member?_record (hrest _ List.mem_cons_self) h
    exact ⟨.function .record false, replay_cons_of_ok (step_member_of_some hmember)⟩

variable (keys) in
/-- Nothing else can be read from the record. -/
theorem replay_record_of_not_followed (hrest : ∀ r ∈ rest, r.Allowed) (h : ¬ Read.Followed rest) :
    replay (rest.map Read.step) ⟨keys, .record⟩ = .error noMember ∨
      replay (rest.map Read.step) ⟨keys, .record⟩ = .error wrongKind := by
  match rest with
  | [] => exact absurd trivial h
  | .item key :: later => exact Or.inr rfl
  | .member name :: later =>
    have hname : reserved name = false := hrest _ List.mem_cons_self
    by_cases hmem : name ∈ Place.listMembers
    · rw [List.map_cons, replay_cons_of_ok (step_member_of_some (Place.member?_record hname hmem))]
      match later with
      | [] => exact absurd hmem h
      | .item key :: _ => exact Or.inr rfl
      | .member name' :: _ =>
        have hname' : reserved name' = false := hrest (.member name') (by simp)
        have hnone := Place.member?_function hname' .record
        exact Or.inl (replay_cons_of_error (step_member_of_none hnone Place.noConfusion))
    · have hnone : Place.record.member? name = none :=
        Place.member?_of_notMem hname (by rwa [Place.members])
      exact Or.inl (replay_cons_of_error (step_member_of_none hnone Place.noConfusion))

end Recording

/-! ## What an accessor yields -/

section

variable {reads before after : List Read}

/-- An accessor that stays in the document yields the keys it reads. -/
theorem accessedKeys_reads (hreads : ∀ r ∈ reads, r.Allowed) (hown : .own ∉ reads) :
    accessedKeys (reads.map Read.step) = .ok (reads.map Read.key) := by
  have hreplay : Recording.replay (reads.map Read.step ++ []) ⟨[], .document⟩ = _ :=
    Recording.replay_append hreads hown []
  rw [List.append_nil] at hreplay
  rw [accessedKeys, Recording.start, hreplay]
  rfl

theorem replay_own (hreads : ∀ r ∈ before ++ .own :: after, r.Allowed) (hown : .own ∉ before) :
    Recording.replay ((before ++ .own :: after).map Read.step) .start =
      Recording.replay (after.map Read.step) ⟨before.map Read.key, .record⟩ := by
  have hbefore : ∀ r ∈ before, r.Allowed := fun r hr => hreads r (List.mem_append_left _ hr)
  rw [List.map_append, List.map_cons, Recording.start, Recording.replay_append hbefore hown,
    Recording.replay_cons_of_ok Recording.step_own, List.nil_append]

/-- An accessor that reads the record yields the keys that it read before, if it can be followed. -/
theorem accessedKeys_own (hreads : ∀ r ∈ before ++ .own :: after, r.Allowed)
    (hown : .own ∉ before) (h : Read.Followed after) :
    accessedKeys ((before ++ .own :: after).map Read.step) = .ok (before.map Read.key) := by
  have hafter : ∀ r ∈ after, r.Allowed := fun r hr =>
    hreads r (List.mem_append_right _ (List.mem_cons_of_mem _ hr))
  obtain ⟨place, hplace⟩ :=
    Recording.replay_record_of_followed (before.map Read.key) hafter h
  rw [accessedKeys, replay_own hreads hown, hplace]
  rfl

theorem accessedKeys_own_error (hreads : ∀ r ∈ before ++ .own :: after, r.Allowed)
    (hown : .own ∉ before) (h : ¬ Read.Followed after) :
    ∃ fault, (fault = noMember ∨ fault = wrongKind) ∧
      accessedKeys ((before ++ .own :: after).map Read.step) = .error fault := by
  have hafter : ∀ r ∈ after, r.Allowed := fun r hr =>
    hreads r (List.mem_append_right _ (List.mem_cons_of_mem _ hr))
  rw [accessedKeys, replay_own hreads hown]
  obtain hfault | hfault :=
    Recording.replay_record_of_not_followed (before.map Read.key) hafter h
  · exact ⟨noMember, Or.inl rfl, by rw [hfault]; rfl⟩
  · exact ⟨wrongKind, Or.inr rfl, by rw [hfault]; rfl⟩

/-- An accessor yields all the keys it reads exactly if it stays in the document. -/
theorem accessedKeys_eq_iff (hreads : ∀ r ∈ reads, r.Allowed) :
    accessedKeys (reads.map Read.step) = .ok (reads.map Read.key) ↔ .own ∉ reads := by
  refine ⟨fun h hown => ?_, accessedKeys_reads hreads⟩
  obtain ⟨before, after, rfl, hbefore⟩ := List.eq_append_cons_of_mem hown
  by_cases hafter : Read.Followed after
  · rw [accessedKeys_own hreads hbefore hafter] at h
    have hlength := congrArg List.length (Except.ok.inj h)
    simp at hlength
  · obtain ⟨fault, -, hfault⟩ := accessedKeys_own_error hreads hbefore hafter
    rw [hfault] at h
    cases h

/-- An accessor that cannot be followed to its end is no misconfigured path. -/
theorem accessedKeys_fault {fault : Fault} (hreads : ∀ r ∈ reads, r.Allowed)
    (h : accessedKeys (reads.map Read.step) = .error fault) :
    fault = noMember ∨ fault = wrongKind := by
  by_cases hown : .own ∈ reads
  · obtain ⟨before, after, rfl, hbefore⟩ := List.eq_append_cons_of_mem hown
    by_cases hafter : Read.Followed after
    · rw [accessedKeys_own hreads hbefore hafter] at h
      cases h
    · obtain ⟨fault', hcases, hfault⟩ := accessedKeys_own_error hreads hbefore hafter
      rw [hfault] at h
      cases h
      exact hcases
  · rw [accessedKeys_reads hreads hown] at h
    cases h

theorem misconfigured_accessor_iff (hreads : ∀ r ∈ reads, r.Allowed) :
    Misconfigured (resolvePath (.accessor (reads.map Read.step))) ↔
      ∃ keys, accessedKeys (reads.map Read.step) = .ok keys ∧ (keys = [] ∨ "" ∈ keys) := by
  have hpath : pathKeys (.accessor (reads.map Read.step)) = accessedKeys (reads.map Read.step) := rfl
  cases hkeys : accessedKeys (reads.map Read.step) with
  | ok keys =>
    rw [misconfigured_resolvePath_iff (hpath.trans hkeys)]
    exact ⟨fun h => ⟨keys, rfl, h⟩, by rintro ⟨_, ⟨⟩, h⟩; exact h⟩
  | error fault =>
    rw [resolvePath_of_error (hpath.trans hkeys)]
    refine iff_of_false ?_ (by rintro ⟨_, ⟨⟩, _⟩)
    rintro ⟨_, _, _, ⟨⟩⟩
    obtain hfault | hfault := accessedKeys_fault hreads hkeys <;> cases hfault

end

/-- **The notations of a path agree.** Keys that are not empty and have no dots in them are what a
text that joins them with dots resolves to, the list of them, and an accessor that reads one after
another, unless that reads the record of keys as a member. A text, a list or an accessor is refused as
a path exactly if it yields no key or an empty one. An accessor yields the keys that it reads, up to
the record; from there it goes on to a method of a list at most. -/
theorem notations_agree_iff (keys : List String) (text : String) (items : List Value)
    {reads : List Read} (hreads : ∀ r ∈ reads, r.Allowed) :
    (keys ≠ [] → (∀ key ∈ keys, key ≠ "" ∧ '.' ∉ key.toList) →
      resolvePath (.text (".".intercalate keys)) = .ok keys ∧
      resolvePath (.list (keys.map Value.text)) = .ok keys ∧
      (reads.map Read.key = keys →
        (resolvePath (.accessor (reads.map Read.step)) = .ok keys ↔ .own ∉ reads))) ∧
    (Misconfigured (resolvePath (.text text)) ↔ "" ∈ splitDots text) ∧
    (Misconfigured (resolvePath (.list items)) ↔ items = [] ∨ "" ∈ items.map Value.toText) ∧
    (Misconfigured (resolvePath (.accessor (reads.map Read.step))) ↔
      ∃ read, accessedKeys (reads.map Read.step) = .ok read ∧ (read = [] ∨ "" ∈ read)) ∧
    (.own ∉ reads → accessedKeys (reads.map Read.step) = .ok (reads.map Read.key)) ∧
    ∀ before after, reads = before ++ .own :: after → .own ∉ before →
      (Read.Followed after →
        accessedKeys (reads.map Read.step) = .ok (before.map Read.key)) ∧
      (¬ Read.Followed after → ∃ fault, (fault = noMember ∨ fault = wrongKind) ∧
        accessedKeys (reads.map Read.step) = .error fault) := by
  refine ⟨fun hne hkeys => ⟨?_, ?_, fun hread => ⟨fun h => ?_, fun hown => ?_⟩⟩, ?_, ?_,
    misconfigured_accessor_iff hreads, accessedKeys_reads hreads, ?_⟩
  · have hsplit : pathKeys (.text (".".intercalate keys)) = .ok keys :=
      congrArg Except.ok (splitDots_intercalate hne fun key hkey => (hkeys key hkey).2)
    exact resolvePath_eq_ok hsplit hne fun key hkey => (hkeys key hkey).1
  · exact resolvePath_eq_ok (pathKeys_texts keys) hne fun key hkey => (hkeys key hkey).1
  · subst hread
    exact (accessedKeys_eq_iff hreads).1 (pathKeys_of_resolvePath h)
  · subst hread
    have hyield : pathKeys (.accessor (reads.map Read.step)) = .ok (reads.map Read.key) :=
      accessedKeys_reads hreads hown
    exact resolvePath_eq_ok hyield hne fun key hkey => (hkeys key hkey).1
  · have htext : pathKeys (.text text) = .ok (splitDots text) := rfl
    rw [misconfigured_resolvePath_iff htext, or_iff_right (splitDots_ne_nil text)]
  · rw [misconfigured_resolvePath_iff (pathKeys_list items), List.map_eq_nil_iff]
  · rintro before after rfl hbefore
    exact ⟨accessedKeys_own hreads hbefore, accessedKeys_own_error hreads hbefore⟩

/-- A city is reached in each notation, and the record of keys as an item but not as a member. -/
theorem notations_agree_iff_samples :
    resolvePath (.text "data.city") = .ok ["data", "city"] ∧
    resolvePath (.list [.text "data", .text "city"]) = .ok ["data", "city"] ∧
    resolvePath (.accessor [.attribute "data", .item "city" none]) = .ok ["data", "city"] ∧
    resolvePath (.accessor [.attribute "data", .item "_keys" none]) = .ok ["data", "_keys"] ∧
    resolvePath (.accessor [.attribute "data", .attribute "_keys"]) ≠ .ok ["data", "_keys"] ∧
    accessedKeys [.attribute "data", .attribute "_keys"] = .ok ["data"] := by
  have hcity : ∀ r ∈ [Read.member "data", .item "city"], r.Allowed := by decide
  have hitem : ∀ r ∈ [Read.member "data", .item "_keys"], r.Allowed := by decide
  have hown : ∀ r ∈ [Read.member "data", .own], r.Allowed := by decide
  obtain ⟨htext, hlist, hread⟩ :=
    (notations_agree_iff ["data", "city"] "" [] hcity).1 (by decide) (by decide)
  obtain ⟨-, -, hkept⟩ :=
    (notations_agree_iff ["data", "_keys"] "" [] hitem).1 (by decide) (by decide)
  obtain ⟨hnotations, -, -, -, -, hstopped⟩ := notations_agree_iff ["data", "_keys"] "" [] hown
  obtain ⟨-, -, hlost⟩ := hnotations (by decide) (by decide)
  exact ⟨htext, hlist, (hread rfl).2 (by decide), (hkept rfl).2 (by decide),
    fun h => (hlost rfl).1 h (by decide), (hstopped [.member "data"] [] rfl (by decide)).1 trivial⟩

end DocMapper
