import DocMapper.Proofs.Schema.Direct
/-!
# Serialized documents

A serialized document is its data with the id of the document in front. Both are in one dictionary, so
data with a member `id` of its own takes the place of the id (`Document.serialize_eq`). Otherwise the
id and the data are both there, and the data can be read back from what stands behind the id
(`Model.serialize_keeps_data`).
-/

namespace DocMapper

open FieldType

/-- The plain data of distinct fields, with the id of the document in front unless a field has that
name. -/
theorem Document.serialize_eq {doc : Document} {signature : Signature} {held : List (String × Value)}
    (hdata : doc.data = .record signature held) (hkeyed : doc.data.WellKeyed) :
    doc.serialize = .ok ((.text "id", ((held.lookup "id").map Value.dump).getD (.text doc.id)) ::
      Dict.erase (Value.dumpFields held) (.text "id")) := by
  have hdistinct : Dict.Distinct (Value.dumpFields held) := by
    have hdump := hkeyed.dump
    rw [hdata] at hdump
    exact (Value.wellKeyed_dict.1 hdump).1
  have hnone : ∀ e ∈ ([] : Dict Value), e.1.same (.text "id") = false := fun e he => by cases he
  rw [serialize, hdata, Value.dump]
  refine congrArg Except.ok ?_
  rw [Dict.putAll_cons hnone hdistinct, Value.get?_dumpFields]
  exact congrArg _ (Dict.ofEntries_of_distinct (hdistinct.erase _))

namespace Model

variable {m : Model} {doc : Document}

/-- A document that a model has built from what is stored. No dictionary in that has a key twice, and
instances in it, if there are any, are such as a check leaves them. -/
structure IsBuilt (m : Model) (doc : Document) : Prop where
  built : ∃ now raw, m.buildDocument now raw = .ok doc
  wellKeyed : doc.stored.data.WellKeyed
  sound : doc.stored.data.isInstance m.schema.signature = false →
    Sound (IsChecked {}) m.schema.type doc.stored.data

/-- What the data of a document was built from. -/
theorem IsBuilt.exists_build (h : m.IsBuilt doc) : ∃ now,
    m.schema.check now (m.schema.plain doc.stored.data) = .ok doc.data := by
  obtain ⟨now, raw, hbuilt⟩ := h.built
  obtain ⟨stored, -, hdata⟩ := Except.bind_eq_ok.1 hbuilt
  obtain ⟨data, hbuild, hdoc⟩ := Except.bind_eq_ok.1 hdata
  cases hdoc
  exact ⟨now, build_eq_ok.1 hbuild⟩

theorem IsBuilt.isChecked (h : m.IsBuilt doc) (hr : m.schema.type.IsReadable) :
    IsChecked {} m.schema.type doc.data := by
  obtain ⟨now, hcheck⟩ := h.exists_build
  exact isChecked_of_check hr (Schema.sound_plain h.sound) hcheck

theorem IsBuilt.wellKeyed_data (h : m.IsBuilt doc) (hn : m.schema.type.WellNamed) :
    doc.data.WellKeyed := by
  obtain ⟨now, hcheck⟩ := h.exists_build
  refine wellKeyed_of_check _ hn ?_ hcheck
  unfold Schema.plain
  split
  · exact h.wellKeyed.dump
  · exact h.wellKeyed

/-- **Serializing keeps the data, and the id unless the data has one.** If the data has no member
`id`, the id of the document stands in front of exactly the plain data; if it has one, whether as a
declared field or as a kept member, that stands in front of the rest of the plain data, and the id of
the document does not show. Reading the plain data at any time gives the same data, exactly if what is
of free form or undeclared in it holds no instances and references. -/
theorem serialize_keeps_data (hd : m.schema.type.IsDirect) (hdoc : m.IsBuilt doc) :
    ∃ held, doc.data = .record m.schema.signature held ∧
      (held.lookup "id" = none →
        doc.serialize = .ok ((.text "id", .text doc.id) :: Value.dumpFields held)) ∧
      (∀ v, held.lookup "id" = some v → doc.serialize =
        .ok ((.text "id", v.dump) :: Dict.erase (Value.dumpFields held) (.text "id"))) ∧
      ((∃ d ∈ m.schema.fields, d.1.name = "id") → ∃ v, held.lookup "id" = some v) ∧
      ((∀ d ∈ m.schema.fields, d.1.name ≠ "id") → m.schema.extra ≠ .kept →
        held.lookup "id" = none) ∧
      (doc.data.same doc.data = true → ∀ now operation target,
        (∃ w, m.schema.parse now (.dict (Value.dumpFields held)) operation target = .ok w ∧
          w.same doc.data = true) ↔ m.schema.type.HoldsPlain doc.data) := by
  have hchecked := hdoc.isChecked (IsDirect.isReadable _ hd)
  have hkeyed := hdoc.wellKeyed_data (IsDirect.wellNamed _ hd)
  obtain ⟨declared, added, hdata, hdeclared, hadded, hnames, -⟩ := id hchecked
  have hfields := areChecked_iff.1 hdeclared
  have hserialize := Document.serialize_eq hdata hkeyed
  have hn : (declared ++ added).Pairwise fun a b => a.1 ≠ b.1 := by
    rw [hdata] at hkeyed
    exact (Value.wellKeyed_record.1 hkeyed).1
  refine ⟨declared ++ added, hdata, fun hnone => ?_, fun v hv => ?_, ?_, fun hfree hkept => ?_,
    fun hself now operation target => ?_⟩
  · have hget : Dict.get? (Value.dumpFields (declared ++ added)) (.text "id") = none := by
      rw [Value.get?_dumpFields, hnone, Option.map_none]
    rw [hserialize, hnone, Dict.erase_of_forall (Dict.forall_of_get?_eq_none hget)]
    rfl
  · rw [hserialize, hv]
    rfl
  · rintro ⟨d, hmem, hname⟩
    obtain ⟨v, hv, -⟩ := hfields.exists_field hmem
    rw [hname] at hv
    exact ⟨v, lookup_of_mem hn (List.mem_append_left _ hv)⟩
  · rw [hadded hkept, List.append_nil, List.lookup_eq_none_iff]
    intro e he
    obtain ⟨d, hmem, hname, -⟩ := hfields.exists_declaration he
    simpa [hname] using (hfree d hmem).symm
  · have hdump : doc.data.dump = .dict (Value.dumpFields (declared ++ added)) := by
      rw [hdata, Value.dump]
    rw [← hdump, ← returns_iff_holdsPlain hd (by simp [Limits.bounds]) hkeyed hself hchecked]
    refine exists_congr fun w => and_congr_left fun _ => ?_
    rw [Schema.parse_eq_ok, Schema.plain, if_neg (by simp [hdump, Value.isInstance])]
    rfl

/-! ## Tickets and memos -/

/-- Tickets, which have an id of their own. -/
def ticketModel : Model where
  name := "tickets"
  schema := { name := "Ticket", fields := [({ name := "id" }, .text)] }
  indexes := {}

/-- Memos with a title, if they are given one, and with any other members. -/
def memoModel : Model where
  name := "memos"
  schema :=
    { name := "Memo"
      fields := [({ name := "title", default := .value "untitled" }, .text)]
      extra := .kept }
  indexes := {}

/-- The ticket "x", which is stored as the document "1". -/
def ticket : Document where
  stored := { ref := ⟨"1", some ⟨"tickets", none, none⟩, none⟩, ts := 1, data := .object [("id", "x")] }
  data := .record ticketModel.schema.signature [("id", "x")]

/-- A memo about something, which is stored as the document "1". -/
def memo (about : Value) : Document where
  stored :=
    { ref := ⟨"1", some ⟨"memos", none, none⟩, none⟩, ts := 1, data := .object [("about", about)] }
  data := .record memoModel.schema.signature [("title", "untitled"), ("about", about)]

theorem ticketModel_isDirect : ticketModel.schema.type.IsDirect :=
  ⟨List.pairwise_singleton _ _, ⟨rfl, by simp [Limits.bounds], fun _ h => h.elim, fun _ h => h.elim⟩,
    trivial, trivial⟩

theorem memoModel_isDirect : memoModel.schema.type.IsDirect := by
  refine ⟨List.pairwise_singleton _ _, ⟨rfl, by simp [Limits.bounds], ?_, ?_⟩, trivial, trivial⟩
  · rintro _ rfl
    trivial
  · rintro _ rfl
    exact .inl ⟨"untitled", rfl, rfl, rfl⟩

theorem isBuilt_ticket : ticketModel.IsBuilt ticket where
  built := ⟨0, ticket.stored.toValue, rfl⟩
  wellKeyed := Value.wellKeyed_dict.2 ⟨by decide, fun e he => by
    rw [List.mem_singleton.1 he]
    trivial⟩
  sound _ := ⟨fun _ _ => trivial, trivial⟩

theorem isBuilt_memo {about : Value} (h : about.WellKeyed) : memoModel.IsBuilt (memo about) where
  built := ⟨0, (memo about).stored.toValue, rfl⟩
  wellKeyed := Value.wellKeyed_dict.2 ⟨List.pairwise_singleton _ _, fun e he => by
    rw [List.mem_singleton.1 he]
    exact h⟩
  sound _ := ⟨fun _ _ => trivial, trivial⟩

/-- The ticket shows as the ticket "x" and not as the document "1". A memo about a document is read as
a memo about a dictionary. -/
theorem serialize_hides_id :
    (ticketModel.schema.type.IsDirect ∧ ticketModel.IsBuilt ticket ∧ ticket.id = "1" ∧
      ticket.serialize = .ok [(.text "id", "x")]) ∧
    memoModel.schema.type.IsDirect ∧ memoModel.IsBuilt (memo (.ref ⟨"2", none, none⟩)) ∧
    ∀ now w, memoModel.schema.parse now (memo (.ref ⟨"2", none, none⟩)).data.dump .null .null = .ok w →
      w.same (memo (.ref ⟨"2", none, none⟩)).data = false := by
  refine ⟨⟨ticketModel_isDirect, isBuilt_ticket, rfl, rfl⟩, memoModel_isDirect, isBuilt_memo trivial,
    fun now w h => ?_⟩
  have hread : memoModel.schema.parse now (memo (.ref ⟨"2", none, none⟩)).data.dump .null .null =
      .ok (memo (Ref.dump ⟨"2", none, none⟩)).data := rfl
  cases h.symm.trans hread
  rfl

/-- The ticket is serialized without the id of its document, and a memo about a text with it; the memo
is read back. -/
theorem serialize_keeps_data_sample :
    (ticketModel.schema.type.IsDirect ∧ ticketModel.IsBuilt ticket) ∧
    ticket.serialize = .ok [(.text "id", "x")] ∧
    (memoModel.schema.type.IsDirect ∧ memoModel.IsBuilt (memo "ink") ∧
      (memo "ink").data.same (memo "ink").data = true) ∧
    (memo "ink").serialize =
      .ok [(.text "id", "1"), (.text "title", "untitled"), (.text "about", "ink")] ∧
    ∃ w, memoModel.schema.parse 0 (.object [("title", "untitled"), ("about", "ink")]) .null .null =
      .ok w ∧ w.same (memo "ink").data = true := by
  obtain ⟨held, hdata, -, hid, -⟩ := serialize_keeps_data ticketModel_isDirect isBuilt_ticket
  have hmemo : memoModel.IsBuilt (memo "ink") := isBuilt_memo trivial
  obtain ⟨held', hdata', hnone, -, -, -, hread⟩ := serialize_keeps_data memoModel_isDirect hmemo
  cases hdata
  cases hdata'
  refine ⟨⟨ticketModel_isDirect, isBuilt_ticket⟩, hid "x" rfl,
    ⟨memoModel_isDirect, hmemo, rfl⟩, hnone rfl, (hread rfl 0 .null .null).2 ?_⟩
  refine ⟨⟨fun _ _ _ => trivial, trivial⟩, fun e he hother => ?_⟩
  rcases List.mem_cons.1 he with rfl | he
  · exact absurd rfl (hother _ List.mem_cons_self)
  · rw [List.mem_singleton.1 he]
    rfl

end Model

end DocMapper
