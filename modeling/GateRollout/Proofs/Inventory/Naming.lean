import GateRollout.Inventory.Basic
import GateRollout.Proofs.Schedule.Reading

/-!
# What a stored configuration is called

A stored configuration that does not name its schedule is named after the name it is stored under.  That
name is put into the document before the document is read, and by the first of its two keys alone.  So a
document that names its schedule by the second key is renamed, and one whose first key is there and holds
nothing stays without a name.  But for the name, the schedule is the one that the document describes.  A name
that has no text is none that a schedule can have.
-/

namespace GateRollout

namespace Document

/-! ## Names and the rest -/

/-- What a document describes but for the name: a schedule under any name that it is given. -/
def unnamed (doc : Entries) : Except Fault (String → Schedule) := do
  let baseTime ← integerField doc ["base_time_ns", "base_time"] "base_time_ns"
  let cycleTime ← integerField doc ["cycle_time_ns", "cycle_time"] "cycle_time_ns"
  let adminState ← stateOf doc
  let offset ← offsetOf (doc.valueAt "interface_time_offset_ns")
  let entries ← readEntries 0 (← entryList (doc.valueAt "entries"))
  return fun id => ⟨id, baseTime, cycleTime, adminState, entries, offset⟩

theorem read_map (doc : Entries) : read (.map doc) = do
    nameCheck doc
    let describe ← unnamed doc
    return describe (← textOf (idOf doc)) := by
  rw [read, readEntriesOf_eq]
  simp only [unnamed, bind_assoc, pure_bind]

theorem read_of_nameCheck {doc : Entries} (h : nameCheck doc = .ok ()) :
    read (.map doc) = do return (← unnamed doc) (← textOf (idOf doc)) := by
  rw [read_map, h]
  rfl

/-- A schedule is the same under every name. -/
theorem unnamed_apply {doc : Entries} {describe : String → Schedule}
    (h : unnamed doc = .ok describe) (id other : String) :
    describe other = { describe id with id := other } := by
  obtain ⟨baseTime, -, h⟩ := bind_eq_ok.1 h
  obtain ⟨cycleTime, -, h⟩ := bind_eq_ok.1 h
  obtain ⟨adminState, -, h⟩ := bind_eq_ok.1 h
  obtain ⟨offset, -, h⟩ := bind_eq_ok.1 h
  obtain ⟨items, -, h⟩ := bind_eq_ok.1 h
  obtain ⟨entries, -, h⟩ := bind_eq_ok.1 h
  obtain rfl := Except.ok.inj h
  rfl

/-! ## Giving a name -/

section

variable {doc : Entries} {v : Value}

theorem unnamed_put_schedule_id : unnamed (doc.put "schedule_id" v) = unnamed doc := by
  rw [unnamed, integerField_put (by decide) (by decide), integerField_put (by decide) (by decide),
    stateOf_put (by decide), Entries.valueAt_put_of_ne doc (by decide),
    Entries.valueAt_put_of_ne doc (by decide)]
  rfl

/-- What is given under the first key decides; a document without that key is named by the second. -/
theorem idOf_put_schedule_id (hkey : doc.hasKey "schedule_id" = false) :
    idOf (doc.put "schedule_id" v) = if v.isGiven then v else idOf doc := by
  have hnone : doc.valueAt? "schedule_id" = none := by simpa [Entries.hasKey] using hkey
  have hown : idOf doc = doc.valueAt "id" := by
    simp [idOf, Entries.valueAt, hnone, Value.isGiven]
  rw [hown, idOf, Entries.valueAt_put_self, Entries.valueAt_put_of_ne doc (by decide)]

theorem nameCheck_put_schedule_id (hkey : doc.hasKey "schedule_id" = false) (h : nameCheck doc = .ok ()) :
    nameCheck (doc.put "schedule_id" v) = .ok () := by
  rw [nameCheck_eq_ok] at h ⊢
  rw [idOf_put_schedule_id hkey, Entries.valueAt?_put_of_ne doc (by decide)]
  refine ⟨h.1, ?_⟩
  split
  · assumption
  · exact h.2

/-- A fault other than a missing name comes before a name is looked for, and stays. -/
theorem nameCheck_put_of_error {f : Fault} (h : nameCheck doc = .error f) (hf : f ≠ .missing "schedule_id") :
    nameCheck (doc.put "schedule_id" v) = .error f := by
  rw [nameCheck] at h ⊢
  rw [Entries.valueAt?_put_of_ne doc (by decide)]
  split at h
  · case _ hfeature => rw [if_pos hfeature, h]
  · split at h
    · exact absurd (Except.error.inj h).symm hf
    · cases h

/-- A schedule that names itself by the second key is the same schedule, under the name that is put under
the first, which has to have a text. -/
theorem parse_put_of_ok (hkey : doc.hasKey "schedule_id" = false) {s : Schedule}
    (h : parse (.map doc) = .ok s) :
    parse (.map (doc.put "schedule_id" v)) =
      if v.hasText then .ok { s with id := if v.isGiven then v.text else s.id } else .error .unwritten := by
  have hread := mapError_eq_ok.1 h
  rw [read_map] at hread
  obtain ⟨⟨⟩, hname, hread⟩ := bind_eq_ok.1 hread
  obtain ⟨describe, hdescribe, hread⟩ := bind_eq_ok.1 hread
  obtain ⟨id, hid, hs⟩ := bind_eq_ok.1 hread
  obtain rfl : describe id = s := Except.ok.inj hs
  have hown : (describe id).id = id := by rw [unnamed_apply hdescribe id id]
  rw [parse, read_of_nameCheck (nameCheck_put_schedule_id hkey hname), unnamed_put_schedule_id, hdescribe,
    idOf_put_schedule_id hkey, hown]
  cases hgiven : v.isGiven with
  | true =>
    by_cases htext : v.hasText = true
    · rw [if_pos rfl, textOf_of_hasText htext, if_pos htext]
      exact congrArg Except.ok (unnamed_apply hdescribe id _)
    · rw [if_pos rfl, textOf_of_not_hasText htext, if_neg htext]
      rfl
  | false =>
    have htext : v.hasText = true := by
      by_contra htext
      rw [Value.isGiven_of_not_hasText htext] at hgiven
      cases hgiven
    rw [if_neg (by simp), hid, if_pos htext]
    exact congrArg Except.ok (unnamed_apply hdescribe id _)

/-- What is amiss with a document other than its name is amiss under every name. -/
theorem parse_put_of_error (hkey : doc.hasKey "schedule_id" = false) {f : Fault}
    (h : read (.map doc) = .error f) (hf : f ≠ .missing "schedule_id") (htext : (idOf doc).hasText = true) :
    parse (.map (doc.put "schedule_id" v)) = .error f.toFailure := by
  rw [read_map] at h
  rcases bind_eq_error.1 h with h | ⟨⟨⟩, hname, h⟩
  · rw [parse, read_map, nameCheck_put_of_error h hf]
    rfl
  · have hrest : unnamed doc = .error f := by
      rcases bind_eq_error.1 h with h | ⟨describe, -, h⟩
      · exact h
      · rw [textOf_of_hasText htext] at h
        cases h
    rw [parse, read_of_nameCheck (nameCheck_put_schedule_id hkey hname), unnamed_put_schedule_id, hrest]
    rfl

end

end Document

namespace Inventory

open Document (parse read)

/-! ## Stored configurations -/

variable {inv : Inventory} {id : Value} {doc : Entries}

/-- The schedule of a configuration is what its document describes, once it has the first key of a name. -/
theorem schedule_eq (h : inv.document id = .ok doc) :
    inv.schedule id =
      if doc.hasKey "schedule_id" then parse (.map doc) else parse (.map (doc.put "schedule_id" id)) := by
  have hnamed : inv.namedDocument id =
      .ok (if doc.hasKey "schedule_id" then doc else doc.put "schedule_id" id) := by
    rw [namedDocument, h]
    change Except.ok (if doc.hasKey "schedule_id" then doc else doc ++ [(.str "schedule_id", id)]) = _
    rw [Entries.put]
    cases doc.hasKey "schedule_id" <;> rfl
  rw [schedule, hnamed]
  cases doc.hasKey "schedule_id" <;> rfl

/-- A stored document that has the first key of a name is read as it stands, even where nothing is given
under that key.  Any other is read under the name it is stored under: where it was a schedule, it is the
same one but for the name, if that has a text, and whatever is amiss with it besides its name is still
reported.  So a document that is a schedule stays the schedule it is exactly where the first key is there, or
it is stored under a name that holds nothing, or under its own. -/
theorem schedule_of_document (h : inv.document id = .ok doc) :
    (doc.hasKey "schedule_id" = true → inv.schedule id = parse (.map doc)) ∧
    (doc.hasKey "schedule_id" = false →
      inv.schedule id = parse (.map (doc.put "schedule_id" id)) ∧
      (∀ s, parse (.map doc) = .ok s → inv.schedule id =
        if id.hasText then .ok { s with id := if id.isGiven then id.text else s.id } else .error .unwritten) ∧
      ∀ f, read (.map doc) = .error f → f ≠ .missing "schedule_id" → (Document.idOf doc).hasText = true →
        inv.schedule id = .error f.toFailure) ∧
    ∀ s, parse (.map doc) = .ok s → (inv.schedule id = .ok s ↔
      doc.hasKey "schedule_id" = true ∨ id.isGiven = false ∨ (id.hasText = true ∧ id.text = s.id)) := by
  have hput (hkey : doc.hasKey "schedule_id" = false) :
      inv.schedule id = parse (.map (doc.put "schedule_id" id)) := by
    rw [schedule_eq h, hkey]
    rfl
  refine ⟨fun hkey => by rw [schedule_eq h, if_pos hkey], fun hkey => ⟨hput hkey, fun s hs => ?_,
    fun f hread hf htext => ?_⟩, fun s hs => ?_⟩
  · rw [hput hkey, Document.parse_put_of_ok hkey hs]
  · rw [hput hkey, Document.parse_put_of_error hkey hread hf htext]
  · cases hkey : doc.hasKey "schedule_id" with
    | true => simp [schedule_eq h, hkey, hs]
    | false =>
      rw [hput hkey, Document.parse_put_of_ok hkey hs]
      by_cases htext : id.hasText = true
      · rw [if_pos htext, Except.ok.injEq]
        cases hgiven : id.isGiven with
        | false => simp
        | true =>
          simp only [if_true, Bool.false_eq_true, Bool.true_eq_false, false_or, htext, true_and]
          exact ⟨congrArg Schedule.id, fun hid => by rw [hid]⟩
      · rw [if_neg htext]
        simp [htext, Value.isGiven_of_not_hasText htext]

/-- An inventory of one configuration, of an empty schedule with some name entries. -/
def storing (name : Entries) : Inventory :=
  ⟨[], [(.str "c", .map (name ++ [(.str "base_time_ns", .int 0), (.str "cycle_time_ns", .int 1000)]))]⟩

/-- A document without a name is the schedule it describes under the name that it is stored under. -/
theorem schedule_of_unnamed_document :
    (storing []).document (.str "c") = .ok [(.str "base_time_ns", .int 0), (.str "cycle_time_ns", .int 1000)] ∧
    (storing []).schedule (.str "c") = .ok ⟨"c", 0, 1000, .enabled, [], none⟩ := by
  have h : (storing []).document (.str "c") =
      .ok [(.str "base_time_ns", .int 0), (.str "cycle_time_ns", .int 1000)] := rfl
  exact ⟨h, ((schedule_of_document h).2.1 rfl).1⟩

/-- Not every document keeps the name that it gives itself, and not every one that lacks nothing but a name
is given one: a name under the second key is replaced, and an empty one under the first stays. -/
theorem own_name_is_lost :
    (¬∀ (inv : Inventory) (id : Value) (doc : Entries) (s : Schedule), inv.document id = .ok doc →
      parse (.map doc) = .ok s → inv.schedule id = .ok s) ∧
    ¬∀ (inv : Inventory) (id : Value) (doc : Entries), inv.document id = .ok doc →
      read (.map doc) = .error (.missing "schedule_id") → id.isGiven = true →
      inv.schedule id = parse (.map (doc.put "schedule_id" id)) := by
  constructor
  · intro h
    have hlost :=
      h (storing [(.str "id", .str "mine")]) (.str "c") _ ⟨"mine", 0, 1000, .enabled, [], none⟩ rfl rfl
    have hid := congrArg Schedule.id (Except.ok.inj hlost)
    exact absurd hid (by decide)
  · intro h
    cases h (storing [(.str "schedule_id", .str "")]) (.str "c") _ rfl rfl rfl

end Inventory

end GateRollout
