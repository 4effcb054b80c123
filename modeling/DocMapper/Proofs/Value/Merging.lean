import DocMapper.Model
import DocMapper.Proofs.Value.Nulls
/-!
# Merges, path by path

What a merge has at a path is told by what the two dictionaries have there, and by what the update has
on the way (`Value.merge_along_paths`).

* Where the update has something, it is laid over what the base has there (`Value.under?_mergeAt`), so
  that two dictionaries are merged and anything else of the update replaces the base's.
* Where the update has nothing, the base is left as it is (`Value.under?_mergeAt_of_not_bars`), unless
  something of the update that is no dictionary stands in the way (`Value.under?_mergeAt_of_bars`).

The keys of a merge are those of the base, followed by the new ones of the update
(`Value.keys_mergeEntries`).

Dictionaries that are merged one after another are layers. Laying the same one over a merge again
changes nothing (`Value.mergeAt_again`), and layers can be put together before they are laid over a
base (`Value.mergeAt_assoc`), unless the lower one parts the base from the upper one: it has something
else where those two have dictionaries (`Value.Parted`). Then the base's dictionary is gone when the
upper layer comes, which is not so if the layers were put together first. `Value.merge_in_layers` says
so, and what it means for changes to documents and for the metadata of logs.
-/

namespace DocMapper.Value

/-- Something other than a dictionary stands at a path. -/
def HasOther (v : Value) (path : List Key) : Prop :=
  ∃ u, v.under? path = some u ∧ ∀ entries, u ≠ .dict entries

/-- Something other than a dictionary stands on the way along a path. -/
def Bars (v : Value) (path : List Key) : Prop :=
  ∃ front rest, path = front ++ rest ∧ rest ≠ [] ∧ v.HasOther front

variable {current : Option Value} {v u : Value} {base update : Dict Value} {path : List Key}
  {key : Key}

/-! ## Keys -/

theorem has_mergeEntries (hu : update.Distinct) (key : Key) :
    Dict.has (mergeEntries base update) key = (base.has key || update.has key) := by
  rw [Dict.has, Dict.has, Dict.has, get?_mergeEntries hu]
  cases update.get? key with
  | none => simp [mergedAt]
  | some v => simp [mergedAt]

/-- **The keys of a merge** are those of the base in their order, then the new ones of the update in
theirs. -/
theorem keys_mergeEntries (hu : update.Distinct) : Dict.keys (mergeEntries base update) =
    base.keys ++ update.keys.filter fun k => !base.has k := by
  induction update generalizing base with
  | nil => simp [mergeEntries, Dict.keys]
  | cons e rest ih =>
    obtain ⟨k, v⟩ := e
    obtain ⟨hhead, hrest⟩ := List.pairwise_cons.1 hu
    -- the keys after the first are new to the base exactly if they are once the first is written
    have hlater : (Dict.keys rest).filter (fun k' => !(base.put k (mergeAt (base.get? k) v)).has k') =
        (Dict.keys rest).filter fun k' => !base.has k' := by
      refine List.filter_congr fun k' hk' => ?_
      obtain ⟨e, he, rfl⟩ := List.mem_map.1 hk'
      rw [Dict.has_put_of_not_same _ _ (hhead e he)]
    have hkeys : Dict.keys ((k, v) :: rest) = k :: Dict.keys rest := rfl
    rw [mergeEntries, ih hrest, hlater, Dict.keys_put, hkeys]
    by_cases hk : base.has k = true
    · simp [hk]
    · simp [hk]

/-! ## What is laid over what -/

/-- The dictionary over which one is laid, empty where there is none. -/
def baseOf : Option Value → Dict Value
  | some (.dict base) => base
  | _ => []

/-- A dictionary is as it is when it is laid over an empty one. -/
theorem mergeEntries_nil (hu : update.Distinct) : mergeEntries [] update = update := by
  refine Dict.Distinct.ext (distinct_mergeEntries Dict.distinct_nil update) ?_ fun key => ?_
  · rw [keys_mergeEntries hu]
    simp [Dict.keys, Dict.has]
  · rw [get?_mergeEntries hu]
    cases update.get? key with
    | none => rfl
    | some v => exact congrArg some (mergeAt_of_not_base (by simp) v)

/-- A dictionary is laid over a dictionary, empty or not. -/
theorem mergeAt_dict_eq (hu : update.Distinct) (current : Option Value) :
    mergeAt current (.dict update) = .dict (mergeEntries (baseOf current) update) := by
  by_cases hbase : ∃ base, current = some (.dict base)
  · obtain ⟨base, rfl⟩ := hbase
    rw [mergeAt_dict, baseOf]
  · have hempty : baseOf current = [] := by
      unfold baseOf
      split
      · exact absurd ⟨_, rfl⟩ hbase
      · rfl
    rw [mergeAt_of_not_base (not_exists.1 hbase), hempty, mergeEntries_nil hu]

/-- What is below a key of something is below that key of its dictionary. -/
theorem bind_under?_cons (current : Option Value) (key : Key) (path : List Key) :
    (current.bind fun w => w.under? (key :: path)) =
      ((baseOf current).get? key).bind fun w => w.under? path := by
  cases current with
  | none => rfl
  | some w =>
    cases w with
    | dict base => rw [Option.bind_some, under?_dict, baseOf]
    | _ => rfl

/-- What a merge has below a key is what is laid over what is below it. -/
theorem under?_mergeAt_cons (hv : WellKeyed (.dict update)) (key : Key) (path : List Key) :
    (mergeAt current (.dict update)).under? (key :: path) =
      (mergedAt ((baseOf current).get? key) (update.get? key)).bind fun w => w.under? path := by
  have hdistinct := (wellKeyed_dict.1 hv).1
  rw [mergeAt_dict_eq hdistinct, under?_dict, get?_mergeEntries hdistinct]

/-! ## What stands in the way -/

theorem not_bars_nil : ¬ v.Bars [] := by
  rintro ⟨front, rest, hpath, hrest, -⟩
  exact hrest (List.append_eq_nil_iff.1 hpath.symm).2

theorem bars_of_not_dict (h : ∀ entries, v ≠ .dict entries) : v.Bars (key :: path) :=
  ⟨[], key :: path, rfl, by simp, v, under?_nil v, h⟩

theorem bars_dict : Bars (.dict update) (key :: path) ↔
    ∃ u, update.get? key = some u ∧ u.Bars path := by
  constructor
  · rintro ⟨front, rest, hpath, hrest, w, hw, hother⟩
    cases front with
    | nil => exact absurd (Option.some.inj hw).symm (hother update)
    | cons k front =>
      obtain ⟨rfl, hbelow⟩ := List.cons_eq_cons.1 hpath
      rw [under?_dict] at hw
      obtain ⟨u, hu, hunder⟩ := Option.bind_eq_some_iff.1 hw
      exact ⟨u, hu, front, rest, hbelow, hrest, w, hunder, hother⟩
  · rintro ⟨u, hu, front, rest, rfl, hrest, w, hw, hother⟩
    refine ⟨key :: front, rest, rfl, hrest, w, ?_, hother⟩
    rw [under?_dict, hu, Option.bind_some, hw]

/-! ## Paths -/

/-- What a path leads to in data whose dictionaries have distinct keys is such data. -/
theorem WellKeyed.under (hv : v.WellKeyed) (h : v.under? path = some u) : u.WellKeyed := by
  induction path generalizing v with
  | nil =>
    cases h
    exact hv
  | cons key rest ih =>
    obtain ⟨entries, w, rfl, hw, hrest⟩ := exists_dict_of_under? h
    exact ih (hv.member hw) hrest

/-- **Where the update has something**, it is laid over what the base has there. -/
theorem under?_mergeAt (hv : v.WellKeyed) (h : v.under? path = some u) :
    (mergeAt current v).under? path =
      some (mergeAt (current.bind fun w => w.under? path) u) := by
  induction path generalizing current v with
  | nil =>
    cases h
    simp
  | cons key rest ih =>
    obtain ⟨update, w, rfl, hw, hrest⟩ := exists_dict_of_under? h
    rw [under?_mergeAt_cons hv, hw, mergedAt, Option.bind_some, bind_under?_cons]
    exact ih (hv.member hw) hrest

/-- **Where the update has nothing**, the base is left as it is unless something of the update stands
in the way. -/
theorem under?_mergeAt_of_not_bars (hv : v.WellKeyed) (h : v.under? path = none)
    (hbars : ¬ v.Bars path) :
    (mergeAt current v).under? path = current.bind fun w => w.under? path := by
  induction path generalizing current v with
  | nil => simp at h
  | cons key rest ih =>
    cases v with
    | dict update =>
      rw [under?_dict] at h
      rw [under?_mergeAt_cons hv, bind_under?_cons]
      cases hw : Dict.get? update key with
      | none => rfl
      | some w =>
        rw [hw, Option.bind_some] at h
        exact ih (hv.member hw) h fun hbelow => hbars (bars_dict.2 ⟨w, hw, hbelow⟩)
    | _ => exact absurd (bars_of_not_dict (by simp)) hbars

/-- **What stands in the way** hides what the base has. -/
theorem under?_mergeAt_of_bars (hv : v.WellKeyed) (h : v.under? path = none) (hbars : v.Bars path) :
    (mergeAt current v).under? path = none := by
  induction path generalizing current v with
  | nil => exact absurd hbars not_bars_nil
  | cons key rest ih =>
    cases v with
    | dict update =>
      obtain ⟨w, hw, hbelow⟩ := bars_dict.1 hbars
      rw [under?_dict, hw, Option.bind_some] at h
      rw [under?_mergeAt_cons hv, hw, mergedAt, Option.bind_some]
      exact ih (hv.member hw) h hbelow
    | _ =>
      rw [mergeAt_of_not_dict (by simp)]
      exact h

/-- **A merge, path by path.** Merging an update into a base always succeeds.

* Where the update has something else than a dictionary, or a dictionary where the base has none, the
  merge has what the update has.
* Where only the base has something, the merge has that, unless something of the update that is no
  dictionary stands on the way there: then it has nothing.
* Where neither has anything, the merge has nothing.
* Where both have a dictionary, the merge has one with the keys of the base's, in their order, and
  then the keys that are new in the update's, in theirs. -/
theorem merge_along_paths (base : Dict Value) {update : Dict Value} (hu : (dict update).WellKeyed) :
    ∃ merged, merge (.dict base) (.dict update) = .ok merged ∧
      (∀ path u, (dict update).under? path = some u →
        (∀ entries, u ≠ .dict entries) ∨ ¬ HasDict (some (.dict base)) path →
        (dict merged).under? path = some u) ∧
      (∀ path v, (dict base).under? path = some v → (dict update).under? path = none →
        (¬ (dict update).Bars path → (dict merged).under? path = some v) ∧
        ((dict update).Bars path → (dict merged).under? path = none)) ∧
      (∀ path, (dict base).under? path = none → (dict update).under? path = none →
        (dict merged).under? path = none) ∧
      ∀ path held new, (dict base).under? path = some (.dict held) →
        (dict update).under? path = some (.dict new) → ∃ entries,
          (dict merged).under? path = some (.dict entries) ∧
          Dict.keys entries = Dict.keys held ++ (Dict.keys new).filter fun k => !Dict.has held k := by
  refine ⟨mergeEntries base update, rfl, fun path u hpath hreplaces => ?_,
    fun path v hbase hpath => ⟨fun hbars => ?_, fun hbars => ?_⟩, fun path hbase hpath => ?_,
    fun path held new hbase hpath => ?_⟩ <;> rw [← mergeAt_dict]
  · rw [under?_mergeAt hu hpath]
    rcases hreplaces with hother | hnone
    · rw [mergeAt_of_not_dict hother]
    · rw [mergeAt_of_not_base (not_exists.1 hnone)]
  · rw [under?_mergeAt_of_not_bars hu hpath hbars, Option.bind_some, hbase]
  · exact under?_mergeAt_of_bars hu hpath hbars
  · by_cases hbars : (dict update).Bars path
    · exact under?_mergeAt_of_bars hu hpath hbars
    · rw [under?_mergeAt_of_not_bars hu hpath hbars, Option.bind_some, hbase]
  · refine ⟨mergeEntries held new, ?_, keys_mergeEntries (wellKeyed_dict.1 (hu.under hpath)).1⟩
    rw [under?_mergeAt hu hpath, Option.bind_some, hbase, mergeAt_dict]

/-- An address, and a list of tags. -/
def mergeBase : Dict Value :=
  [(.text "tags", .list ["old"]), (.text "address", .dict [(.text "city", "Rome"), (.text "zip", .null)])]

/-- A country and a zip for the address, and a table of tags. -/
def mergeUpdate : Dict Value :=
  [(.text "address", .dict [(.text "country", "IT"), (.text "zip", "00118")]),
    (.text "tags", .dict [(.text "first", "new")])]

/-- The table replaces the list, the city stays, and the country comes after it. -/
theorem merge_along_paths_sample : (dict mergeUpdate).WellKeyed ∧
    ∃ merged, merge (.dict mergeBase) (.dict mergeUpdate) = .ok merged ∧
      (dict merged).under? ["tags"] = some (.dict [(.text "first", "new")]) ∧
      (dict merged).under? ["address", "city"] = some "Rome" ∧
      (dict merged).under? ["address", "street"] = none ∧
      ∃ address, (dict merged).under? ["address"] = some (.dict address) ∧
        Dict.keys address = ["city", "zip", "country"] := by
  have hu : (dict mergeUpdate).WellKeyed := by
    simp [mergeUpdate, WellKeyed, AreWellKeyedEntries, Dict.Distinct]
  obtain ⟨merged, hmerged, hupdate, hbase, hneither, hboth⟩ := merge_along_paths mergeBase hu
  have htags : ¬ HasDict (some (dict mergeBase)) ["tags"] := by
    rintro ⟨held, hheld⟩
    cases hheld
  have hcity : ¬ (dict mergeUpdate).Bars ["address", "city"] := by
    intro hbars
    obtain ⟨address, haddress, hbelow⟩ := bars_dict.1 hbars
    cases haddress
    obtain ⟨city, hcity, -⟩ := bars_dict.1 hbelow
    cases hcity
  obtain ⟨address, haddress, hkeys⟩ := hboth ["address"] _ _ rfl rfl
  exact ⟨hu, merged, hmerged, hupdate ["tags"] _ rfl (Or.inr htags),
    (hbase ["address", "city"] _ rfl rfl).1 hcity, hneither ["address", "street"] rfl rfl,
    address, haddress, hkeys⟩

/-! ## Layers -/

/-- At some path the middle layer has something else where those below and above it have
dictionaries. -/
def Parted (below : Option Value) (middle above : Value) : Prop :=
  ∃ path, HasDict below path ∧ middle.HasOther path ∧ HasDict (some above) path

variable {lower upper : Dict Value}

theorem distinct_baseOf (h : ∀ old, current = some old → old.WellKeyed) :
    Dict.Distinct (baseOf current) := by
  unfold baseOf
  split
  · exact (wellKeyed_dict.1 (h _ rfl)).1
  · exact Dict.distinct_nil

/-- What is in the dictionary over which one is laid has distinct keys, if the dictionary has. -/
theorem wellKeyed_of_baseOf (h : ∀ old, current = some old → old.WellKeyed)
    (hu : (baseOf current).get? key = some u) : u.WellKeyed := by
  unfold baseOf at hu
  split at hu
  · exact (h _ rfl).member hu
  · cases hu

/-! ## The same layer again -/

/-- A dictionary each of whose values can be laid over a merge again can be laid over it as a whole. -/
theorem mergeEntries_again (hb : base.Distinct) (hu : update.Distinct)
    (h : ∀ key u, update.get? key = some u →
      mergeAt (some (mergeAt (base.get? key) u)) u = mergeAt (base.get? key) u) :
    mergeEntries (mergeEntries base update) update = mergeEntries base update := by
  refine Dict.Distinct.ext (distinct_mergeEntries (distinct_mergeEntries hb _) _) ?_ fun key => ?_
  · -- none of its keys is new the second time
    rw [keys_mergeEntries hu, List.filter_eq_nil_iff.2, List.append_nil]
    intro k hk
    obtain ⟨e, he, rfl⟩ := List.mem_map.1 hk
    simp [has_mergeEntries hu, Dict.has_of_mem he]
  · rw [get?_mergeEntries hu, get?_mergeEntries hu]
    cases hkey : update.get? key with
    | none => rfl
    | some u => exact congrArg some (h key u hkey)

/-- **The same layer again** changes nothing. -/
theorem mergeAt_again (hv : v.WellKeyed) (hcurrent : ∀ old, current = some old → old.WellKeyed) :
    mergeAt (some (mergeAt current v)) v = mergeAt current v := by
  induction v using dictInduction generalizing current with
  | other v hdict => simp only [mergeAt_of_not_dict hdict]
  | dict update ih =>
    have hu := (wellKeyed_dict.1 hv).1
    rw [mergeAt_dict_eq hu current, mergeAt_dict, mergeEntries_again (distinct_baseOf hcurrent) hu]
    intro key u hkey
    obtain ⟨k, hmem, -⟩ := Dict.exists_mem_of_get? hkey
    exact ih _ hmem (hv.member hkey) fun _ => wellKeyed_of_baseOf hcurrent

/-! ## Layers put together -/

/-- A dictionary parts others if one of its values parts those under its key. -/
theorem parted_dict : Parted current (.dict lower) (.dict upper) ↔ ∃ key u v,
    lower.get? key = some u ∧ upper.get? key = some v ∧ Parted ((baseOf current).get? key) u v := by
  constructor
  · rintro ⟨path, hbelow, ⟨w, hw, hother⟩, habove⟩
    cases path with
    | nil => exact absurd (Option.some.inj hw).symm (hother lower)
    | cons key path =>
      rw [under?_dict] at hw
      obtain ⟨u, hu, hunder⟩ := Option.bind_eq_some_iff.1 hw
      obtain ⟨base, rfl, hbelow⟩ := hasDict_cons.1 hbelow
      obtain ⟨entries, hentries, held, hheld⟩ := hasDict_cons.1 habove
      cases hentries
      obtain ⟨v, hv, hdict⟩ := Option.bind_eq_some_iff.1 hheld
      exact ⟨key, u, v, hu, hv, path, hbelow, ⟨w, hunder, hother⟩, held, hdict⟩
  · rintro ⟨key, u, v, hu, hv, path, hbelow, ⟨w, hw, hother⟩, habove⟩
    have hbase : ∃ base, current = some (.dict base) := by
      unfold baseOf at hbelow
      split at hbelow
      · exact ⟨_, rfl⟩
      · obtain ⟨held, hheld⟩ := hbelow
        cases hheld
    obtain ⟨base, rfl⟩ := hbase
    refine ⟨key :: path, hasDict_cons.2 ⟨base, rfl, hbelow⟩, ⟨w, ?_, hother⟩,
      hasDict_cons.2 ⟨upper, rfl, by rwa [hv]⟩⟩
    rw [under?_dict, hu, Option.bind_some, hw]

/-- Dictionaries whose values can be put together under every key that they share can be put together
as a whole. -/
theorem mergeEntries_assoc (hb : base.Distinct) (hl : lower.Distinct) (hu : upper.Distinct)
    (h : ∀ key u v, lower.get? key = some u → upper.get? key = some v →
      mergeAt (some (mergeAt (base.get? key) u)) v = mergeAt (base.get? key) (mergeAt (some u) v)) :
    mergeEntries (mergeEntries base lower) upper =
      mergeEntries base (mergeEntries lower upper) := by
  have htogether := distinct_mergeEntries hl upper
  refine Dict.Distinct.ext (distinct_mergeEntries (distinct_mergeEntries hb _) _) ?_ fun key => ?_
  · rw [keys_mergeEntries hu, keys_mergeEntries hl, keys_mergeEntries htogether,
      keys_mergeEntries hu, List.filter_append, List.filter_filter, List.append_assoc]
    simp only [has_mergeEntries hl, Bool.not_or]
  · rw [get?_mergeEntries hu, get?_mergeEntries hl, get?_mergeEntries htogether,
      get?_mergeEntries hu]
    cases hupper : upper.get? key with
    | none => rfl
    | some v =>
      cases hlower : lower.get? key with
      | none =>
        have hnew : mergeAt none v = v := mergeAt_of_not_base (by simp) v
        simp only [mergedAt, hnew]
      | some u => exact congrArg some (h key u v hlower hupper)

/-- **Layers can be put together** before they are laid over something, unless the lower one parts that
from the upper one. -/
theorem mergeAt_assoc (hcurrent : ∀ old, current = some old → old.WellKeyed) (hu : u.WellKeyed)
    (hv : v.WellKeyed) (h : ¬ Parted current u v) :
    mergeAt (some (mergeAt current u)) v = mergeAt current (mergeAt (some u) v) := by
  induction v using dictInduction generalizing current u with
  | other v hdict => simp only [mergeAt_of_not_dict hdict]
  | dict upper ih =>
    have hupper := (wellKeyed_dict.1 hv).1
    by_cases hdict : ∃ lower, u = .dict lower
    · obtain ⟨lower, rfl⟩ := hdict
      have hlower := (wellKeyed_dict.1 hu).1
      rw [mergeAt_dict_eq hlower current, mergeAt_dict, mergeAt_dict,
        mergeAt_dict_eq (distinct_mergeEntries hlower upper) current,
        mergeEntries_assoc (distinct_baseOf hcurrent) hlower hupper]
      intro key u v hkey hkey'
      obtain ⟨k, hmem, -⟩ := Dict.exists_mem_of_get? hkey'
      exact ih _ hmem (fun _ => wellKeyed_of_baseOf hcurrent) (hu.member hkey) (hv.member hkey')
        fun hparted => h (parted_dict.2 ⟨key, u, v, hkey, hkey', hparted⟩)
    · -- what is no dictionary is replaced by the upper layer, and so is what is below
      have hother : ∀ lower, u ≠ .dict lower := not_exists.1 hdict
      have hbelow : ∀ base, current ≠ some (.dict base) := by
        rintro base rfl
        exact h ⟨[], hasDict_nil.2 ⟨base, rfl⟩, ⟨u, under?_nil u, hother⟩,
          hasDict_nil.2 ⟨upper, rfl⟩⟩
      rw [mergeAt_of_not_dict hother, mergeAt_of_not_base (by simpa using hother),
        mergeAt_of_not_base hbelow]

/-! ## Documents and logs -/

/-- **Dictionaries in layers.** Laying the second over the first always succeeds, and laying it over
again changes nothing. Unless it parts the first from the third, the two that are laid over the first
can be put together before, and all entries are then in the same order at every depth. So changes to
the data of a document can be made one after the other or together, and it does not matter to the
entries of a log whether a layer of metadata belongs to the log or to what is added to it. -/
theorem merge_in_layers {a b c : Dict Value} (ha : (dict a).WellKeyed) (hb : (dict b).WellKeyed)
    (hc : (dict c).WellKeyed) : ∃ ab bc, merge (.dict a) (.dict b) = .ok ab ∧
      merge (.dict b) (.dict c) = .ok bc ∧ merge (.dict ab) (.dict b) = .ok ab ∧
      (¬ Parted (some (.dict a)) (.dict b) (.dict c) →
        merge (.dict ab) (.dict c) = merge (.dict a) (.dict bc) ∧
        (∀ doc changed : Document, doc.data.dump = .dict a →
          doc.merged (.dict b) = .ok changed.data.dump →
          changed.merged (.dict c) = doc.merged (.dict bc)) ∧
        ∀ (log : Log) (severity message : Value), log.base = .dict a →
          { log with base := .dict ab }.entry severity message (.dict c) =
            log.entry severity message (.dict bc)) := by
  have hagain : mergeAt (some (mergeAt (some (.dict a)) (.dict b))) (.dict b) =
      mergeAt (some (.dict a)) (.dict b) := mergeAt_again hb fun _ h => Option.some.inj h ▸ ha
  rw [mergeAt_dict, mergeAt_dict, dict.injEq] at hagain
  refine ⟨mergeEntries a b, mergeEntries b c, rfl, rfl, congrArg Except.ok hagain, fun hparted => ?_⟩
  have hassoc := mergeAt_assoc (fun _ h => Option.some.inj h ▸ ha) hb hc hparted
  rw [mergeAt_dict, mergeAt_dict, mergeAt_dict, mergeAt_dict, dict.injEq] at hassoc
  have hmerge : merge (.dict (mergeEntries a b)) (.dict c) =
      merge (.dict a) (.dict (mergeEntries b c)) := congrArg Except.ok hassoc
  refine ⟨hmerge, fun doc changed hdoc hchanged => ?_, fun log severity message hbase => ?_⟩
  · rw [Document.merged, hdoc] at hchanged
    cases hdump : changed.data.dump <;> rw [hdump] at hchanged <;> cases hchanged
    rw [Document.merged, Document.merged, hdump, hdoc, hmerge]
  · rw [Log.entry, Log.entry, hbase, orEmpty_dict, orEmpty_dict, hmerge]

/-- The metadata of a log about users. -/
def userMeta : Dict Value := [(.text "name", "user"), (.text "at", .dict [(.text "host", "north")])]

/-- The port of the place. -/
def portMeta : Dict Value := [(.text "at", .dict [(.text "port", .int 443)])]

/-- Another host, and a document. -/
def hostMeta : Dict Value := [(.text "id", "101"), (.text "at", .dict [(.text "host", "south")])]

theorem not_parted_userMeta : ¬ Parted (some (.dict userMeta)) (.dict portMeta) (.dict hostMeta) := by
  intro hparted
  obtain ⟨key, u, v, hu, hv, hbelow⟩ := parted_dict.1 hparted
  obtain ⟨k, hmem, hkey⟩ := Dict.exists_mem_of_get? hu
  cases List.mem_singleton.1 hmem
  rw [← Dict.get?_congr _ hkey] at hv
  cases hv
  -- below that key, only the middle layer has a port
  obtain ⟨key', u', v', hu', hv', -⟩ := parted_dict.1 hbelow
  obtain ⟨k', hmem', hkey'⟩ := Dict.exists_mem_of_get? hu'
  cases List.mem_singleton.1 hmem'
  rw [← Dict.get?_congr _ hkey'] at hv'
  cases hv'

/-- A port and then another host, or both at once. -/
theorem merge_in_layers_sample : ¬ Parted (some (.dict userMeta)) (.dict portMeta) (.dict hostMeta) ∧
    ∃ ab bc, merge (.dict userMeta) (.dict portMeta) = .ok ab ∧
      merge (.dict portMeta) (.dict hostMeta) = .ok bc ∧ merge (.dict ab) (.dict portMeta) = .ok ab ∧
      merge (.dict userMeta) (.dict bc) = merge (.dict ab) (.dict hostMeta) ∧
      merge (.dict userMeta) (.dict bc) = .ok [(.text "name", "user"), (.text "at", .dict
        [(.text "host", "south"), (.text "port", .int 443)]), (.text "id", "101")] := by
  have hkeyed : ∀ layer ∈ [userMeta, portMeta, hostMeta], (dict layer).WellKeyed := by
    simp [userMeta, portMeta, hostMeta, WellKeyed, AreWellKeyedEntries, Dict.Distinct]
  obtain ⟨ab, bc, hab, hbc, hagain, hlayers⟩ := merge_in_layers (hkeyed userMeta (by simp))
    (hkeyed portMeta (by simp)) (hkeyed hostMeta (by simp))
  have hmerge := (hlayers not_parted_userMeta).1
  cases hbc
  exact ⟨not_parted_userMeta, ab, _, hab, rfl, hagain, hmerge.symm, rfl⟩

end DocMapper.Value
