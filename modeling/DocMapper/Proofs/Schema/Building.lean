import DocMapper.Model.Queries
import DocMapper.Proofs.Schema.Limits
import DocMapper.Schema.Parse
/-!
# What building gives

Whatever the input, what is built is an instance of the schema (`Model.exists_record_of_build`), and
its stored form is the dictionary of the stored forms of its fields.
-/

namespace DocMapper

/-- **What a schema checks is an instance of it.** -/
theorem Schema.exists_record_of_check {s : Schema} {now : Int} {v w : Value}
    (h : s.check now v = .ok w) : ∃ fields, w = .record s.signature fields := by
  rw [check, type] at h
  unfold FieldType.check at h
  simp only at h
  split at h
  · split at h
    · rename_i own held hown
      exact ⟨held, by rw [Limits.hold_eq_ok h, hown]; rfl⟩
    · cases h
  · obtain ⟨⟨declared, others⟩, -, h⟩ := Except.bind_eq_ok.1 h
    exact ⟨_, Limits.hold_eq_ok h⟩
  · cases h

theorem Schema.parse_eq_ok {s : Schema} {now : Int} {input operation target w : Value} :
    s.parse now input operation target = .ok w ↔ s.check now (s.plain input) = .ok w := by
  rw [parse, concluded, Except.mapError_eq_ok]

theorem Model.build_eq_ok {m : Model} {now : Int} {input operation target w : Value} :
    m.build now input operation target = .ok w ↔
      m.schema.check now (m.schema.plain input) = .ok w := by
  rw [build, Schema.parse_eq_ok]

/-- A model builds each element of a sequence as it builds it alone. -/
theorem Model.buildBulk_eq_ok {m : Model} {now : Int} {input operation target : Value}
    {built : List Value} : m.buildBulk now input operation target = .ok built ↔
      ∃ items, input.items = .ok items ∧
        items.map (fun v => m.schema.check now (m.schema.plain v)) = built.map .ok := by
  rw [buildBulk, Schema.parseBulk, Except.bind_eq_ok]
  simp only [Schema.concluded, Except.mapError_eq_ok, Schema.checkAll, Checked.all_eq_ok,
    Checked.mapIdx_under_eq]

/-- What a bulk build gives is built from some element of the input each. -/
theorem Model.exists_build_of_buildBulk {m : Model} {now : Int} {inputs operation target : Value} {built : List Value}
    (h : m.buildBulk now inputs operation target = .ok built) : ∃ items, inputs.items = .ok items ∧
      ∀ w ∈ built, ∃ input ∈ items, ∀ operation target,
        m.build now input operation target = .ok w := by
  obtain ⟨items, hitems, hbuilt⟩ := buildBulk_eq_ok.1 h
  refine ⟨items, hitems, fun w hw => ?_⟩
  have hmem : (.ok w : Checked Value) ∈ items.map fun v =>
      m.schema.check now (m.schema.plain v) := by
    rw [hbuilt]
    exact List.mem_map_of_mem hw
  obtain ⟨input, hinput, hcheck⟩ := List.mem_map.1 hmem
  exact ⟨input, hinput, fun _ _ => build_eq_ok.2 hcheck⟩

/-- **What a model builds is an instance of its schema.** -/
theorem Model.exists_record_of_build {m : Model} {now : Int} {input operation target w : Value}
    (h : m.build now input operation target = .ok w) :
    ∃ fields, w = .record m.schema.signature fields :=
  Schema.exists_record_of_check (build_eq_ok.1 h)

/-- **What a model builds comes from members**, which the input has or is an instance of. -/
theorem Model.exists_members_of_build {m : Model} {now : Int} {input operation target w : Value}
    (h : m.build now input operation target = .ok w) :
    ∃ members, m.schema.plain input = .dict members := by
  rw [build_eq_ok, Schema.check, Schema.type] at h
  unfold FieldType.check at h
  simp only at h
  split at h
  · rename_i own held hplain
    split at h
    · -- an instance of the schema is no longer one when it is checked
      rename_i hown
      unfold Schema.plain at hplain
      split at hplain
      · cases input with
        | record => simp [Value.dump] at hplain
        | _ => simp_all [Value.isInstance]
      · rename_i hnot
        simp [hplain, Value.isInstance, hown, Schema.signature] at hnot
    · cases h
  · rename_i members hplain
    exact ⟨members, hplain⟩
  · cases h

/-- The stored form of an instance is the dictionary of the stored forms of its fields. -/
theorem Value.stored_record {signature : Signature} {fields : List (String × Value)} {data : Value}
    (h : (Value.record signature fields).stored = .ok data) :
    data = .dict (jsonDumpFields signature fields) := by
  unfold stored at h
  split at h
  · cases h
  · cases h
    rw [jsonDump]

end DocMapper
