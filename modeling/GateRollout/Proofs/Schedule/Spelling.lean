import GateRollout.Proofs.Schedule.Reading
import GateRollout.Proofs.Text.Hex

/-!
# Documents that spell a schedule

A schedule may be written as a document in many ways: under either name of a field, with integers as
text, with gate states in five forms, with what is usual left out.  The choices are made field by field
and entry by entry, and whichever are made, the document is read as the schedule.
-/

namespace GateRollout.Document

open Text

/-! ## Spellings -/

/-- An integer as it stands in a document: as it is, or as its decimal text. -/
inductive SpellsInteger (n : Int) : Value → Prop
  | int : SpellsInteger n (.int n)
  | text : numeralLength n ≤ 4300 → SpellsInteger n (.str (intText n))

/-- Gate states as they stand in a document: bytes as they are or as a list of numbers, hexadecimal text
with or without a mark in front, one byte as a number, and no bytes as nothing. -/
inductive SpellsStates : List UInt8 → Value → Prop
  | bytes (bs : List UInt8) : SpellsStates bs (.bytes bs)
  | list (bs : List UInt8) : SpellsStates bs (.list (bs.map fun b => .int b.toNat))
  | hex {bs : List UInt8} {text : List Char} : HexText bs text → SpellsStates bs (.str (String.ofList text))
  | marked {bs : List UInt8} {text : List Char} {mark : Char} : mark = 'x' ∨ mark = 'X' → HexText bs text →
      SpellsStates bs (.str (String.ofList ('0' :: mark :: text)))
  | byte (b : UInt8) : SpellsStates [b] (.int b.toNat)
  | null : SpellsStates [] .null

/-- An operation as it stands in a document: its name, and nothing for none. -/
inductive SpellsOperation : Option Operation → Value → Prop
  | name (op : Operation) : SpellsOperation (some op) (.str op.name)
  | null : SpellsOperation none .null

/-- The entries of a map that spell an entry of a schedule at a position.  The position stands for an
index that is left out. -/
structure SpellsEntry (position : Nat) (e : GateEntry) (raw : Entries) : Prop where
  index : (raw.valueAt? "index" = none ∧ e.index = position) ∨
    ∃ v, raw.valueAt? "index" = some v ∧ SpellsInteger e.index v
  interval : ∃ v, (raw.valueAt? "time_interval_ns").or (raw.valueAt? "time_interval") = some v ∧
    SpellsInteger e.interval v
  gateStates : SpellsStates e.gateStates (raw.valueAt "gate_states")
  operation : SpellsOperation e.operation (raw.valueAt "operation")
  description : raw.valueAt "description" = e.description

/-- Maps that spell entries of a schedule, from a position on. -/
inductive SpellsItems : Nat → List GateEntry → List Value → Prop
  | nil (position : Nat) : SpellsItems position [] []
  | cons {position : Nat} {e : GateEntry} {raw : Entries} {es : List GateEntry} {items : List Value} :
      SpellsEntry position e raw → SpellsItems (position + 1) es items →
      SpellsItems position (e :: es) (.map raw :: items)

/-- The entries of a document that spell a schedule. -/
structure Spells (s : Schedule) (doc : Entries) : Prop where
  feature : doc.valueAt? "feature" = none ∨ doc.valueAt? "feature" = some (.str "qbv")
  id : (doc.valueAt? "schedule_id").or (doc.valueAt? "id") = some (.str s.id)
  baseTime : ∃ v, (doc.valueAt? "base_time_ns").or (doc.valueAt? "base_time") = some v ∧
    SpellsInteger s.baseTime v
  cycleTime : ∃ v, (doc.valueAt? "cycle_time_ns").or (doc.valueAt? "cycle_time") = some v ∧
    SpellsInteger s.cycleTime v
  adminState : (doc.valueAt? "admin_state" = none ∧ s.adminState = .enabled) ∨
    ∃ name, doc.valueAt? "admin_state" = some (.str name) ∧
      name.toList.map Char.toLower = s.adminState.name.toList
  offset : (s.offset = none ∧ doc.valueAt "interface_time_offset_ns" = .null) ∨
    ∃ n v, s.offset = some n ∧ doc.valueAt? "interface_time_offset_ns" = some v ∧ SpellsInteger n v
  entries : ∃ items, doc.valueAt? "entries" = some (.list items) ∧ SpellsItems 0 s.entries items

/-! ## Integers -/

theorem SpellsInteger.integerOf {n : Int} {v : Value} (h : SpellsInteger n v) (field : String) :
    integerOf field v = .ok n := by
  cases h with
  | int => rfl
  | text hlength =>
    have hread : readInt (intText n).toList = .ok n := by
      rw [intText, String.toList_ofList]
      exact readInt_intDigits hlength
    simp only [Document.integerOf, Value.toInteger, hread, mapError_ok]

theorem SpellsInteger.isNull {n : Int} {v : Value} (h : SpellsInteger n v) : v.isNull = false := by
  cases h <;> rfl

theorem integerField_of_spells {doc : Entries} {name other : String} {n : Int}
    (h : ∃ v, (doc.valueAt? name).or (doc.valueAt? other) = some v ∧ SpellsInteger n v) (field : String) :
    integerField doc [name, other] field = .ok n := by
  obtain ⟨v, hv, hn⟩ := h
  rw [integerField, Entries.findSome?_valueAt?, hv]
  exact hn.integerOf field

/-! ## Gate states -/

theorem byteOf_toNat (b : UInt8) : byteOf (.int b.toNat) = .ok b := by
  have := b.toNat_lt
  have hrange : (0 : Int) ≤ b.toNat ∧ (b.toNat : Int) < 256 := by omega
  simp [byteOf, hrange]

theorem mapM_byteOf (bs : List UInt8) : (bs.map fun b => Value.int b.toNat).mapM byteOf = .ok bs := by
  induction bs with
  | nil => rfl
  | cons b bs ih =>
    rw [List.map_cons, List.mapM_cons, byteOf_toNat, ih]
    rfl

theorem dropHexMarks_eq_self {s : List Char} (h : 'x' ∉ s) : dropHexMarks s = s := by
  fun_induction dropHexMarks s with
  | case1 rest ih => simp at h
  | case2 c rest _ ih => rw [ih fun hx => h (List.mem_cons_of_mem c hx)]
  | case3 => rfl

theorem not_mem_hexDigits (bs : List UInt8) : 'x' ∉ hexDigits bs := by
  have hall : ∀ n < 16, 'x' ≠ hexDigit n := by decide
  intro hx
  obtain ⟨b, -, hx⟩ := List.mem_flatMap.1 hx
  simp only [byteDigits, List.mem_cons, List.not_mem_nil, or_false] at hx
  rcases hx with hx | hx
  · exact hall _ (nibbles_lt b).1 hx
  · exact hall _ (nibbles_lt b).2 hx

/-- A text of visible ASCII that is hexadecimal digits once its letters are in lower case and its marks
are dropped. -/
theorem gateStatesOf_str {bs : List UInt8} {text : List Char}
    (hgraphic : ∀ c ∈ text, 33 ≤ c.toNat ∧ c.toNat ≤ 126)
    (h : dropHexMarks (text.map Char.toLower) = hexDigits bs) :
    gateStatesOf (.str (String.ofList text)) = .ok bs := by
  have htrim : trim text = text := trimBy_eq_self fun c hc => isBlank_of_graphic (hgraphic c hc)
  have hlower : lowerAfter [] text = text.map Char.toLower :=
    lowerAfter_of_ascii (fun c hc => Nat.lt_of_le_of_lt (hgraphic c hc).2 (by decide)) []
  rw [gateStatesOf, String.toList_ofList, htrim, hlower, h, readHex_hexDigits]
  rfl

theorem SpellsStates.gateStatesOf {bs : List UInt8} {v : Value} (h : SpellsStates bs v) :
    gateStatesOf v = .ok bs := by
  cases h with
  | bytes => rfl
  | list => exact mapM_byteOf bs
  | hex htext =>
    refine gateStatesOf_str htext.graphic ?_
    rw [htext.map_toLower, dropHexMarks_eq_self (not_mem_hexDigits bs)]
  | @marked _ text mark hmark htext =>
    refine gateStatesOf_str ?_ ?_
    · have hgraphic : 33 ≤ mark.toNat ∧ mark.toNat ≤ 126 := by rcases hmark with rfl | rfl <;> decide
      exact List.forall_mem_cons.2 ⟨by decide, List.forall_mem_cons.2 ⟨hgraphic, htext.graphic⟩⟩
    · have hlower : mark.toLower = 'x' := by rcases hmark with rfl | rfl <;> decide
      rw [List.map_cons, List.map_cons, htext.map_toLower, hlower]
      exact dropHexMarks_eq_self (not_mem_hexDigits bs)
  | byte b =>
    rw [Document.gateStatesOf, byteOf_toNat]
    rfl
  | null => rfl

/-! ## Entries -/

theorem SpellsOperation.operationOf {op : Option Operation} {v : Value} (h : SpellsOperation op v)
    (index : Int) : operationOf index v = .ok op := by
  cases h with
  | name op => cases op <;> rfl
  | null => rfl

theorem SpellsEntry.readEntry {position : Nat} {e : GateEntry} {raw : Entries}
    (h : SpellsEntry position e raw) : readEntry position (.map raw) = .ok e := by
  have hindex : integerOf (entryField position "index") ((raw.valueAt? "index").getD (.int position)) =
      .ok e.index := by
    rcases h.index with ⟨hnone, hposition⟩ | ⟨v, hv, hn⟩
    · rw [hnone, hposition]
      rfl
    · rw [hv]
      exact hn.integerOf _
  obtain ⟨v, hv, hn⟩ := h.interval
  have hinterval : (raw.valueAt? "time_interval_ns").getD (raw.valueAt "time_interval") = v := by
    rw [Entries.valueAt]
    cases hname : raw.valueAt? "time_interval_ns" with
    | some w =>
      rw [hname] at hv
      exact Option.some.inj hv
    | none =>
      rw [hname, Option.none_or] at hv
      rw [hv]
      rfl
  simp only [Document.readEntry, hindex, hinterval, hn.isNull, h.operation.operationOf, hn.integerOf,
    h.gateStates.gateStatesOf, h.description]
  rfl

/-- Entries are read one after the other, each at its position. -/
theorem SpellsItems.readEntries {position : Nat} {es : List GateEntry} {items : List Value}
    (h : SpellsItems position es items) : readEntries position items = .ok es := by
  induction h with
  | nil => rfl
  | cons hentry _ ih =>
    rw [Document.readEntries, hentry.readEntry, ih]
    rfl

/-! ## Documents -/

section

variable {s : Schedule} {doc : Entries}

theorem isGiven_str (hid : s.id ≠ "") : (Value.str s.id).isGiven = true := by simpa [Value.isGiven] using hid

theorem Spells.idOf (h : Spells s doc) (hid : s.id ≠ "") : idOf doc = .str s.id := by
  have hname := h.id
  cases hfirst : doc.valueAt? "schedule_id" with
  | some v =>
    rw [hfirst] at hname
    obtain rfl := Option.some.inj hname
    simp only [Document.idOf, Entries.valueAt, hfirst, Option.getD_some]
    exact if_pos (isGiven_str hid)
  | none =>
    rw [hfirst, Option.none_or] at hname
    simp only [Document.idOf, Entries.valueAt, hfirst, hname]
    rfl

theorem Spells.nameCheck (h : Spells s doc) (hid : s.id ≠ "") : nameCheck doc = .ok () := by
  have hfeature : ((doc.valueAt? "feature").getD (.str Schedule.feature)).isText Schedule.feature = true := by
    rcases h.feature with hnone | hsome
    · rw [hnone]
      rfl
    · rw [hsome]
      rfl
  exact nameCheck_eq_ok.2 ⟨hfeature, by rw [h.idOf hid, isGiven_str hid]⟩

theorem toNat_lt_of_toLower {c : Char} (h : c.toLower.toNat < 128) : c.toNat < 128 := by
  by_cases hupper : c.val ≥ 'A'.val ∧ c.val ≤ 'Z'.val
  · exact Nat.lt_of_le_of_lt (show c.toNat ≤ 90 from hupper.2) (by decide)
  · have hself : c.toLower = c := dif_neg hupper
    rwa [hself] at h

theorem Spells.stateOf (h : Spells s doc) : stateOf doc = .ok s.adminState := by
  rcases h.adminState with ⟨hnone, henabled⟩ | ⟨name, hname, hlower⟩
  · rw [Document.stateOf, hnone, henabled]
    rfl
  · have hascii : ∀ c ∈ s.adminState.name.toList, c.toNat < 128 := by
      have hall : s.adminState.name.toList.all (·.toNat < 128) = true := by
        cases s.adminState <;> decide
      simpa using hall
    have hname' : lower name = s.adminState.name := by
      rw [lower, lowerAfter_of_ascii, hlower, String.ofList_toList]
      intro c hc
      exact toNat_lt_of_toLower (hascii _ (hlower ▸ List.mem_map_of_mem hc))
    rw [Document.stateOf, hname, Option.getD_some, textOf_of_hasText Value.hasText_str]
    change stateNamed name = _
    rw [stateNamed, hname']
    cases s.adminState <;> rfl

theorem Spells.offsetOf (h : Spells s doc) :
    offsetOf (doc.valueAt "interface_time_offset_ns") = .ok s.offset := by
  rcases h.offset with ⟨hnone, hnull⟩ | ⟨n, v, hsome, hv, hn⟩
  · rw [hnone, hnull]
    rfl
  · have hvalue : doc.valueAt "interface_time_offset_ns" = v := by
      rw [Entries.valueAt, hv]
      rfl
    rw [hvalue, hsome, Document.offsetOf, hn.isNull, hn.integerOf]
    rfl

theorem entryList_list (items : List Value) : entryList (.list items) = .ok items := by
  cases items <;> rfl

theorem Spells.readEntriesOf (h : Spells s doc) (hid : s.id ≠ "") : readEntriesOf doc = .ok s := by
  obtain ⟨items, hitems, hentries⟩ := h.entries
  have hvalue : doc.valueAt "entries" = .list items := by
    rw [Entries.valueAt, hitems]
    rfl
  rw [readEntriesOf_eq, h.nameCheck hid, integerField_of_spells h.baseTime,
    integerField_of_spells h.cycleTime, h.stateOf, h.offsetOf, hvalue, entryList_list, h.idOf hid,
    textOf_of_hasText Value.hasText_str]
  change (readEntries 0 items >>= _) = _
  rw [hentries.readEntries]
  rfl

end

/-! ## Writing -/

/-- An operation as the value under its key. -/
def operationValue (op : Option Operation) : Value := op.elim .null fun op => .str op.name

/-- The entries of a map for an entry of a schedule, with nothing left out. -/
def entryDocument (e : GateEntry) : Entries :=
  [(.str "index", .int e.index), (.str "time_interval_ns", .int e.interval),
    (.str "gate_states", .bytes e.gateStates), (.str "operation", operationValue e.operation),
    (.str "description", e.description)]

/-- The entries of a document for a schedule, with nothing left out. -/
def document (s : Schedule) : Entries :=
  [(.str "feature", .str Schedule.feature), (.str "schedule_id", .str s.id),
    (.str "base_time_ns", .int s.baseTime), (.str "cycle_time_ns", .int s.cycleTime),
    (.str "admin_state", .str s.adminState.name),
    (.str "interface_time_offset_ns", s.offset.elim .null .int),
    (.str "entries", .list (s.entries.map fun e => .map (entryDocument e)))]

theorem spells_operationValue (op : Option Operation) : SpellsOperation op (operationValue op) := by
  cases op with
  | none => exact .null
  | some op => exact .name op

theorem spells_entryDocument (position : Nat) (e : GateEntry) :
    SpellsEntry position e (entryDocument e) where
  index := .inr ⟨_, rfl, .int⟩
  interval := ⟨_, rfl, .int⟩
  gateStates := .bytes _
  operation := spells_operationValue _
  description := rfl

theorem spells_items (position : Nat) (es : List GateEntry) :
    SpellsItems position es (es.map fun e => .map (entryDocument e)) := by
  induction es generalizing position with
  | nil => exact .nil position
  | cons e es ih => exact .cons (spells_entryDocument position e) (ih (position + 1))

theorem spells_document (s : Schedule) : Spells s (document s) where
  feature := .inr rfl
  id := rfl
  baseTime := ⟨_, rfl, .int⟩
  cycleTime := ⟨_, rfl, .int⟩
  adminState := .inr ⟨_, rfl, by cases s.adminState <;> decide⟩
  offset := by
    cases hoffset : s.offset with
    | none => exact .inl ⟨rfl, congrArg (fun o : Option Int => o.elim Value.null Value.int) hoffset⟩
    | some n =>
      exact .inr ⟨n, _, rfl, congrArg (fun o : Option Int => some (o.elim Value.null Value.int)) hoffset, .int⟩
  entries := ⟨_, rfl, spells_items 0 s.entries⟩

/-! ## The main statement -/

/-- A schedule with a name has a document, and in every document that spells it, whatever is chosen for
each field and each entry, it is read back. -/
theorem parse_of_spells {s : Schedule} (hid : s.id ≠ "") :
    Spells s (document s) ∧ ∀ doc, Spells s doc → parse (.map doc) = .ok s := by
  refine ⟨spells_document s, fun doc h => ?_⟩
  rw [parse, read, h.readEntriesOf hid]
  rfl

/-- A schedule with a base time before zero and two entries, the first of two bytes and the second with
an index of its own. -/
def spelledSchedule : Schedule :=
  ⟨"s", -5, 1000, .enabled, [⟨0, 400, [0x0f, 0xa3], some .setAndHoldMac, .null⟩,
    ⟨7, 600, [], none, .str "slow"⟩], some 12⟩

/-- The schedule in other words than the usual ones. -/
def spelledDocument : Entries :=
  [(.str "id", .str "s"), (.str "base_time", .str "-5"), (.str "cycle_time_ns", .int 1000),
    (.str "admin_state", .str "EnAbled"), (.str "interface_time_offset_ns", .str "12"),
    (.str "entries", .list [
      .map [(.str "time_interval", .str "400"), (.str "gate_states", .str "0X0Fa3"),
        (.str "operation", .str "set-and-hold-mac")],
      .map [(.str "time_interval_ns", .int 600), (.str "index", .int 7),
        (.str "description", .str "slow")]])]

theorem parse_of_spells_aliases :
    spelledSchedule.id ≠ "" ∧ Spells spelledSchedule spelledDocument ∧
      parse (.map spelledDocument) = .ok spelledSchedule := by
  have hbase : SpellsInteger (-5) (.str "-5") := SpellsInteger.text (n := -5) (by decide)
  have hoffset : SpellsInteger 12 (.str "12") := SpellsInteger.text (n := 12) (by decide)
  have hinterval : SpellsInteger 400 (.str "400") := SpellsInteger.text (n := 400) (by decide)
  have hstates : SpellsStates [0x0f, 0xa3] (.str "0X0Fa3") :=
    .marked (.inr rfl) (.cons (.inl rfl) (.inr rfl) (.cons (.inl rfl) (.inl rfl) .nil))
  have h : Spells spelledSchedule spelledDocument := by
    refine ⟨.inl rfl, rfl, ⟨_, rfl, hbase⟩, ⟨_, rfl, .int⟩, .inr ⟨_, rfl, by decide⟩,
      .inr ⟨12, _, rfl, rfl, hoffset⟩, _, rfl, .cons ?_ (.cons ?_ (.nil 2))⟩
    · exact ⟨.inl ⟨rfl, rfl⟩, ⟨_, rfl, hinterval⟩, hstates, .name .setAndHoldMac, rfl⟩
    · exact ⟨.inr ⟨_, rfl, .int⟩, ⟨_, rfl, .int⟩, .null, .null, rfl⟩
  have hid : spelledSchedule.id ≠ "" := by decide
  exact ⟨hid, h, (parse_of_spells hid).2 _ h⟩

end GateRollout.Document
