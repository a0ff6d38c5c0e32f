import GateRollout.Proofs.Journal
import GateRollout.Proofs.Value.Entries
import GateRollout.Proofs.Value.Written
import GateRollout.Schedule.Document

/-!
# How reading a schedule fails

A document that is no schedule is reported as a fault of one field, and such a fault is an error of the
rollout.  Three faults are not: entries that are given and cannot be gone through, an infinity where
an integer belongs, and an integer of too many digits where a text is needed, be it for the schedule or for
the report.  These escape, and nothing else does.
-/

namespace GateRollout.Document

/-- Read a document, with faults as the failures that they are. -/
def parse (doc : Value) : Except Failure Schedule := (read doc).mapError Fault.toFailure

/-! ## Faults -/

/-- A fault that is reported as an error of the document. -/
def Fault.IsReported (f : Fault) : Prop := ∃ e : RolloutError, f.toFailure = .error e ∧ e.kind = .parse

/-- Whatever fault a reading ends with is reported, or it is one that `P` allows. -/
def Reports {α : Type} (P : Fault → Prop) (r : Except Fault α) : Prop :=
  ∀ f, r = .error f → f.IsReported ∨ P f

/-- A value that has no text, or that stands for an integer without one. -/
def IsLong (v : Value) : Prop :=
  ¬v.hasText = true ∨ ∃ n, v.toInteger = .ok n ∧ ¬Text.isWritten n = true

/-- A fault that is not reported: an infinity among some integers, or one that cannot be written since some
value is too long. -/
inductive Slips (integers values : Value → Prop) : Fault → Prop
  | infinite {v : Value} (hv : integers v) (h : v.infinity?.isSome = true) : Slips integers values .infinite
  | unwritten {f : Fault} (hf : f.isWritten = false) {v : Value} (hv : values v) (h : IsLong v) :
      Slips integers values f

theorem Slips.mono {integers integers' values values' : Value → Prop} {f : Fault}
    (h : Slips integers values f) (hintegers : ∀ v, integers v → integers' v)
    (hvalues : ∀ v, values v → values' v) : Slips integers' values' f := by
  cases h with
  | infinite hv h => exact .infinite (hintegers _ hv) h
  | unwritten hf hv h => exact .unwritten hf (hvalues _ hv) h

theorem toFailure_of_not_isWritten {f : Fault} (h : f.isWritten = false) : f.toFailure = .unwritten :=
  if_neg (by rw [h]; nofun)

section

variable {α β : Type} {P : Fault → Prop}

theorem Reports.ok (a : α) : Reports P (.ok a : Except Fault α) := nofun

theorem Reports.error {f : Fault} (h : f.IsReported ∨ P f) : Reports P (.error f : Except Fault α) := by
  rintro g ⟨⟩
  exact h

theorem Reports.bind {x : Except Fault α} {k : α → Except Fault β} (hx : Reports P x)
    (hk : ∀ a, x = .ok a → Reports P (k a)) : Reports P (x >>= k) := by
  cases x with
  | ok a => exact hk a rfl
  | error f => exact .error (hx f rfl)

theorem Reports.mono {Q : Fault → Prop} {x : Except Fault α} (hx : Reports P x)
    (h : ∀ f, P f → Q f) : Reports Q x := fun f hf => (hx f hf).imp_right (h f)

theorem Reports.map {x : Except Fault α} (k : α → β) (hx : Reports P x) : Reports P (x.map k) := by
  cases x with
  | ok a => exact .ok (k a)
  | error f => exact .error (hx f rfl)

theorem Reports.mapError {ε : Type} {x : Except ε α} {k : ε → Fault}
    (h : ∀ e, (k e).IsReported ∨ P (k e)) : Reports P (x.mapError k) := by
  cases x with
  | ok a => exact .ok a
  | error e => exact .error (h e)

variable {integers values : Value → Prop}

/-- What is refused in an error of its own slips where that is not written. -/
theorem isReported_or_slips {f : Fault} (hreported : f.isWritten = true → f.IsReported)
    (hlong : f.isWritten = false → ∃ v, values v ∧ IsLong v) : f.IsReported ∨ Slips integers values f := by
  cases hf : f.isWritten with
  | true => exact .inl (hreported hf)
  | false =>
    obtain ⟨v, hv, h⟩ := hlong hf
    exact .inr (.unwritten hf hv h)

theorem Reports.slips {x : Except Fault α} {integers' values' : Value → Prop}
    (hx : Reports (Slips integers values) x) (hintegers : ∀ v, integers v → integers' v)
    (hvalues : ∀ v, values v → values' v) : Reports (Slips integers' values') x :=
  hx.mono fun _ hf => hf.mono hintegers hvalues

end

/-! ## Integers -/

theorem toInteger_eq_infinite {v : Value} :
    v.toInteger = .error .infinite ↔ v.infinity?.isSome = true := by
  cases v with
  | float x =>
    rw [Value.toInteger, Value.infinity?]
    cases Decimal.Binary.ofFloat x <;> simp
  | decimal d => cases d <;> simp [Value.toInteger, Value.infinity?, Decimal.Written.truncated?]
  | str s =>
    rw [Value.toInteger]
    cases Text.readInt s.toList <;> simp [Value.infinity?]
  | bytes bs =>
    rw [Value.toInteger]
    split
    · cases Text.readInt (bs.map fun b => Char.ofNat b.toNat) <;>
        simp [Value.infinity?]
    · simp [Value.infinity?]
  | _ => simp [Value.toInteger, Value.infinity?]

/-- A value is no integer: that is reported, unless it is an infinity or too long for the report. -/
theorem reports_integerOf (field : String) (v : Value) : Reports (Slips (· = v) (· = v)) (integerOf field v) := by
  have hreported : (Fault.integer field v).IsReported ∨ Slips (· = v) (· = v) (Fault.integer field v) :=
    isReported_or_slips (fun h => ⟨_, if_pos h, rfl⟩) fun h => ⟨v, rfl, .inl (Bool.not_eq_true _ ▸ h)⟩
  unfold integerOf
  split
  · exact .error hreported
  · split
    · exact .ok _
    · case _ hv => exact .error (.inr (.infinite rfl (toInteger_eq_infinite.1 hv)))
    · exact .error hreported

theorem toInteger_of_integerOf {field : String} {v : Value} {n : Int} (h : integerOf field v = .ok n) :
    v.toInteger = .ok n := by
  unfold integerOf at h
  split at h
  · cases h
  · split at h
    · case _ hn => rw [hn, Except.ok.inj h]
    · cases h
    · cases h

theorem integerOf_of_infinity {v : Value} (h : v.infinity?.isSome = true) (field : String) :
    integerOf field v = .error .infinite := by
  have hv := toInteger_eq_infinite.2 h
  unfold integerOf
  split
  · cases hv
  · simp only [hv]

/-! ## Entries -/

/-- The values that stand where an entry has its integers. -/
def EntryIntegers (raw : Entries) (v : Value) : Prop :=
  raw.valueAt? "index" = some v ∨
    (raw.valueAt? "time_interval_ns").or (raw.valueAt? "time_interval") = some v

/-- The index of the entry at a position: the position, where none is given. -/
def indexOf (position : Nat) (raw : Entries) : Value := (raw.valueAt? "index").getD (.int position)

/-- The values of the entry at a position. -/
def EntryValues (position : Nat) (raw : Entries) (v : Value) : Prop :=
  v = indexOf position raw ∨ ∃ name, raw.valueAt? name = some v

/-- The values that stand where some entries have their integers. -/
def ItemIntegers (items : List Value) (v : Value) : Prop :=
  ∃ raw, .map raw ∈ items ∧ EntryIntegers raw v

/-- The values of some entries, the first of which stands at a position. -/
def ItemValues (position : Nat) (items : List Value) (v : Value) : Prop :=
  ∃ k raw, items[k]? = some (.map raw) ∧ EntryValues (position + k) raw v

/-- What is found under the first of two names that is there stands there, if it is anything at all. -/
theorem valueAt?_or_of_ne_null {raw : Entries} {name other : String}
    (h : (raw.valueAt? name).getD (raw.valueAt other) ≠ .null) :
    (raw.valueAt? name).or (raw.valueAt? other) =
      some ((raw.valueAt? name).getD (raw.valueAt other)) := by
  rw [Entries.valueAt] at h ⊢
  cases hname : raw.valueAt? name with
  | some v => rfl
  | none =>
    cases hother : raw.valueAt? other with
    | some v => rfl
    | none =>
      rw [hname, hother] at h
      exact absurd rfl h

theorem IsLong.ne_null {v : Value} (h : IsLong v) : v ≠ .null := by
  rintro rfl
  rcases h with h | ⟨n, h, -⟩
  · exact h rfl
  · cases h

theorem exists_valueAt?_of_ne_null {raw : Entries} {name : String} (h : raw.valueAt name ≠ .null) :
    raw.valueAt? name = some (raw.valueAt name) := by
  rw [Entries.valueAt] at h ⊢
  cases hname : raw.valueAt? name with
  | some v => rfl
  | none => exact absurd (by rw [hname]; rfl) h

/-- An operation that is none is reported with the index of its entry. -/
theorem reports_operationOf {position : Nat} {raw : Entries} {index : Int}
    (hindex : (indexOf position raw).toInteger = .ok index) :
    Reports (Slips (EntryIntegers raw) (EntryValues position raw)) (operationOf index (raw.valueAt "operation")) := by
  unfold operationOf
  split
  · split
    · exact .ok _
    · refine .error (isReported_or_slips (fun h => ⟨_, if_pos h, rfl⟩) fun h => ?_)
      rcases Bool.and_eq_false_iff.1 h with h | h
      · exact ⟨_, .inl rfl, .inr ⟨index, hindex, by rw [h]; nofun⟩⟩
      · have hlong : IsLong (raw.valueAt "operation") := .inl (by rw [h]; nofun)
        exact ⟨_, .inr ⟨_, exists_valueAt?_of_ne_null hlong.ne_null⟩, hlong⟩
  · exact .ok _

theorem reports_readEntry (position : Nat) (v : Value) :
    Reports (Slips (ItemIntegers [v]) (ItemValues position [v])) (readEntry position v) := by
  cases v with
  | map raw =>
    suffices h : Reports (Slips (EntryIntegers raw) (EntryValues position raw)) (readEntry position (.map raw)) from
      h.slips (fun _ hv => ⟨raw, List.mem_cons_self, hv⟩) fun _ hv => ⟨0, raw, rfl, hv⟩
    rw [readEntry]
    refine .bind ?_ fun index hindex => ?_
    · refine fun f hf => (reports_integerOf _ _ f hf).imp_right fun hslips => ?_
      cases hslips with
      | unwritten hf hv h => exact .unwritten hf (.inl hv) h
      | infinite hv h =>
        subst hv
        cases hindex : Entries.valueAt? raw "index" with
        | none =>
          rw [hindex] at h
          cases h
        | some w => exact .infinite (.inl hindex) (by rwa [hindex] at h)
    · have hindex' : (indexOf position raw).toInteger = .ok index := toInteger_of_integerOf hindex
      dsimp only
      split
      · exact .bind (.error (.inl ⟨_, rfl, rfl⟩)) fun _ h => by cases h
      · case _ hnull =>
        have hgiven : ∀ v, v = (Entries.valueAt? raw "time_interval_ns").getD (Entries.valueAt raw "time_interval") →
            (Entries.valueAt? raw "time_interval_ns").or (Entries.valueAt? raw "time_interval") = some v := by
          rintro _ rfl
          refine valueAt?_or_of_ne_null fun h => hnull ?_
          rw [h]
          rfl
        refine .bind (reports_operationOf hindex') fun _ _ => .bind ?_ fun _ _ => .bind ?_ fun _ _ => .ok _
        · refine (reports_integerOf _ _).slips (fun v hv => .inr (hgiven v hv)) fun v hv => .inr ?_
          rcases Option.or_eq_some_iff.1 (hgiven v hv) with h | ⟨-, h⟩
          · exact ⟨_, h⟩
          · exact ⟨_, h⟩
        · refine .mapError fun cause => isReported_or_slips (fun h => ⟨_, if_pos h, rfl⟩) fun h => ?_
          exact ⟨_, .inl rfl, .inr ⟨index, hindex', by rw [show Text.isWritten index = false from h]; nofun⟩⟩
  | _ => exact .error (.inl ⟨_, rfl, rfl⟩)

theorem reports_readEntries (position : Nat) (items : List Value) :
    Reports (Slips (ItemIntegers items) (ItemValues position items)) (readEntries position items) := by
  induction items generalizing position with
  | nil => exact .ok _
  | cons v rest ih =>
    rw [readEntries]
    refine .bind ?_ fun _ _ => .bind ?_ fun _ _ => .ok _
    · refine (reports_readEntry position v).slips ?_ ?_
      · rintro w ⟨raw, hmem, hw⟩
        obtain rfl := List.mem_singleton.1 hmem
        exact ⟨raw, List.mem_cons_self, hw⟩
      · rintro w ⟨k, raw, hk, hw⟩
        cases k with
        | zero => exact ⟨0, raw, hk, hw⟩
        | succ k => cases hk
    · refine (ih (position + 1)).slips ?_ ?_
      · rintro w ⟨raw, hmem, hw⟩
        exact ⟨raw, List.mem_cons_of_mem _ hmem, hw⟩
      · rintro w ⟨k, raw, hk, hw⟩
        exact ⟨k + 1, raw, hk, by rwa [Nat.add_right_comm] at hw⟩

/-! ## Documents -/

/-- What a document gives as the name of its schedule. -/
def idOf (doc : Entries) : Value :=
  let named := doc.valueAt "schedule_id"
  if named.isGiven then named else doc.valueAt "id"

theorem textOf_eq_ok {v : Value} {s : String} : textOf v = .ok s ↔ v.hasText = true ∧ v.text = s := by
  rw [textOf, mapError_eq_ok, Value.written_eq_ok]

theorem textOf_of_hasText {v : Value} (h : v.hasText = true) : textOf v = .ok v.text := textOf_eq_ok.2 ⟨h, rfl⟩

theorem textOf_of_not_hasText {v : Value} (h : ¬v.hasText = true) : textOf v = .error .unwritten := by
  rw [textOf, Value.written, if_neg h]
  rfl

/-- Whether a document is one of the right feature and gives its schedule a name. -/
def nameCheck (doc : Entries) : Except Fault Unit :=
  let feature := (doc.valueAt? "feature").getD (.str Schedule.feature)
  if !feature.isText Schedule.feature then .error (.feature feature)
  else if !(idOf doc).isGiven then .error (.missing "schedule_id") else .ok ()

/-- The administrative state under a name in any case. -/
def stateNamed (text : String) : Except Fault AdminState :=
  match AdminState.ofName? (Text.lower text) with
  | some state => .ok state
  | none => .error (.adminState (Text.lower text))

/-- The administrative state that a document gives. -/
def stateOf (doc : Entries) : Except Fault AdminState := do
  stateNamed (← textOf ((doc.valueAt? "admin_state").getD (.str "enabled")))

/-- A document is read field by field. -/
theorem readEntriesOf_eq (doc : Entries) : readEntriesOf doc = do
    nameCheck doc
    let baseTime ← integerField doc ["base_time_ns", "base_time"] "base_time_ns"
    let cycleTime ← integerField doc ["cycle_time_ns", "cycle_time"] "cycle_time_ns"
    let adminState ← stateOf doc
    let offset ← offsetOf (doc.valueAt "interface_time_offset_ns")
    let entries ← readEntries 0 (← entryList (doc.valueAt "entries"))
    return ⟨← textOf (idOf doc), baseTime, cycleTime, adminState, entries, offset⟩ := by
  have hid : (if (doc.valueAt "schedule_id").isGiven then doc.valueAt "schedule_id"
      else doc.valueAt "id") = idOf doc := rfl
  rw [readEntriesOf, nameCheck, stateOf]
  dsimp only
  rw [hid]
  split
  · rfl
  · split
    · rfl
    · refine bind_congr fun _ => bind_congr fun _ => ?_
      rw [bind_assoc]
      refine bind_congr fun text => ?_
      rw [stateNamed]
      cases AdminState.ofName? (Text.lower text) <;> rfl

/-- The values that stand where a document has its integers. -/
def DocumentIntegers (doc : Entries) (v : Value) : Prop :=
  (doc.valueAt? "base_time_ns").or (doc.valueAt? "base_time") = some v ∨
  (doc.valueAt? "cycle_time_ns").or (doc.valueAt? "cycle_time") = some v ∨
  doc.valueAt? "interface_time_offset_ns" = some v ∨
  ∃ items, (doc.valueAt "entries").members? = some items ∧ ItemIntegers items v

/-- The values that a document holds, and those of its entries. -/
def DocumentValues (doc : Entries) (v : Value) : Prop :=
  (∃ name, doc.valueAt? name = some v) ∨
  ∃ items, (doc.valueAt "entries").members? = some items ∧ ItemValues 0 items v

/-- The faults that are not reported: entries that are given and have no members, an infinity where
the document has an integer, and what cannot be written of the document. -/
def Escapes (doc : Entries) (f : Fault) : Prop :=
  (f = .entriesNotIterable (doc.valueAt "entries") ∧ (doc.valueAt "entries").isGiven = true ∧
    (doc.valueAt "entries").members? = none) ∨
  Slips (DocumentIntegers doc) (DocumentValues doc) f

/-- A value without a text is no stand-in for a missing one. -/
theorem documentValues_of_getD {doc : Entries} {name text : String}
    (h : ¬((doc.valueAt? name).getD (.str text)).hasText = true) :
    DocumentValues doc ((doc.valueAt? name).getD (.str text)) := by
  cases hv : doc.valueAt? name with
  | some v => exact .inl ⟨name, hv⟩
  | none => exact absurd (by rw [hv]; exact Value.hasText_str) h

theorem documentValues_idOf {doc : Entries} (h : ¬(idOf doc).hasText = true) :
    DocumentValues doc (idOf doc) := by
  have hnull : idOf doc ≠ .null := IsLong.ne_null (.inl h)
  rw [idOf] at hnull ⊢
  cases hgiven : (doc.valueAt "schedule_id").isGiven with
  | true =>
    rw [hgiven] at hnull
    exact .inl ⟨_, exists_valueAt?_of_ne_null hnull⟩
  | false =>
    rw [hgiven] at hnull
    exact .inl ⟨_, exists_valueAt?_of_ne_null hnull⟩

section

variable {integers : Value → Prop}

theorem reports_textOf (v : Value) : Reports (Slips integers fun w => w = v ∧ ¬v.hasText = true) (textOf v) := by
  by_cases h : v.hasText = true
  · rw [textOf_of_hasText h]
    exact .ok _
  · rw [textOf_of_not_hasText h]
    exact .error (.inr (.unwritten rfl ⟨rfl, h⟩ (.inl h)))

theorem reports_nameCheck (doc : Entries) : Reports (Slips integers (DocumentValues doc)) (nameCheck doc) := by
  rw [nameCheck]
  split
  · refine .error (isReported_or_slips (fun h => ⟨_, if_pos h, rfl⟩) fun h => ?_)
    have htext : ¬((doc.valueAt? "feature").getD (.str Schedule.feature)).hasText = true := by
      rw [show ((doc.valueAt? "feature").getD (.str Schedule.feature)).hasText = false from h]
      nofun
    exact ⟨_, documentValues_of_getD htext, .inl htext⟩
  · split
    · exact .error (.inl ⟨_, rfl, rfl⟩)
    · exact .ok _

theorem reports_stateOf (doc : Entries) : Reports (Slips integers (DocumentValues doc)) (stateOf doc) := by
  rw [stateOf]
  refine .bind ((reports_textOf _).slips (fun _ => id) ?_) fun text _ => ?_
  · rintro _ ⟨rfl, h⟩
    exact documentValues_of_getD h
  · rw [stateNamed]
    split
    · exact .ok _
    · exact .error (.inl ⟨_, rfl, rfl⟩)

end

theorem reports_integerField (doc : Entries) (name other field : String) :
    Reports (Slips (fun v => (doc.valueAt? name).or (doc.valueAt? other) = some v) (DocumentValues doc))
      (integerField doc [name, other] field) := by
  rw [integerField, Entries.findSome?_valueAt?]
  split
  · case _ v hv =>
    refine (reports_integerOf field v).slips (by rintro _ rfl; exact hv) ?_
    rintro _ rfl
    rcases Option.or_eq_some_iff.1 hv with h | ⟨-, h⟩
    · exact .inl ⟨_, h⟩
    · exact .inl ⟨_, h⟩
  · exact .error (.inl ⟨_, rfl, rfl⟩)

theorem reports_offsetOf (doc : Entries) (name : String) :
    Reports (Slips (fun v => doc.valueAt? name = some v) (DocumentValues doc)) (offsetOf (doc.valueAt name)) := by
  rw [Entries.valueAt]
  cases hv : doc.valueAt? name with
  | none => exact .ok none
  | some v =>
    rw [offsetOf, Option.getD_some]
    split
    · exact .ok none
    · refine .map some ((reports_integerOf _ v).slips ?_ ?_)
      · rintro _ rfl
        rfl
      · rintro _ rfl
        exact .inl ⟨name, hv⟩

theorem reports_entryList (v : Value) :
    Reports (fun f => f = .entriesNotIterable v ∧ v.isGiven = true ∧ v.members? = none)
      (entryList v) := by
  rw [entryList]
  split
  case isTrue hgiven =>
    split
    case h_1 => exact .ok _
    case h_2 hmembers => exact .error (.inr ⟨rfl, hgiven, hmembers⟩)
  case isFalse => exact .ok []

theorem entryList_eq_ok {v : Value} {items : List Value} (h : entryList v = .ok items) :
    items = [] ∨ v.members? = some items := by
  rw [entryList] at h
  split at h
  · split at h
    · case _ hmembers => exact .inr (Except.ok.inj h ▸ hmembers)
    · cases h
  · exact .inl (Except.ok.inj h).symm

theorem reports_readEntriesOf (doc : Entries) : Reports (Escapes doc) (readEntriesOf doc) := by
  have hslips : ∀ {α : Type} {x : Except Fault α} {integers values : Value → Prop},
      Reports (Slips integers values) x → (∀ v, integers v → DocumentIntegers doc v) →
      (∀ v, values v → DocumentValues doc v) → Reports (Escapes doc) x := fun hx hintegers hvalues =>
    (hx.slips hintegers hvalues).mono fun _ => .inr
  rw [readEntriesOf_eq]
  refine .bind (hslips (reports_nameCheck doc) (fun _ => id) fun _ => id) fun _ _ => .bind ?_ fun _ _ =>
    .bind ?_ fun _ _ => .bind (hslips (reports_stateOf doc) (fun _ => id) fun _ => id) fun _ _ =>
    .bind ?_ fun _ _ => .bind ?_ fun items hitems => .bind ?_ fun _ _ => .bind ?_ fun _ _ => .ok _
  · exact hslips (reports_integerField doc _ _ _) (fun _ => .inl) fun _ => id
  · exact hslips (reports_integerField doc _ _ _) (fun _ h => .inr (.inl h)) fun _ => id
  · exact hslips (reports_offsetOf doc _) (fun _ h => .inr (.inr (.inl h))) fun _ => id
  · exact (reports_entryList _).mono fun f hf => .inl hf
  · rcases entryList_eq_ok hitems with rfl | hmembers
    · exact .ok _
    · exact hslips (reports_readEntries 0 items) (fun _ h => .inr (.inr (.inr ⟨items, hmembers, h⟩)))
        fun _ h => .inr ⟨items, hmembers, h⟩
  · refine hslips (reports_textOf _) (fun _ => id) ?_
    rintro _ ⟨rfl, h⟩
    exact documentValues_idOf h

/-! ## Escapes happen -/

theorem readEntry_put_of_infinity {position : Nat} {raw : Entries} {e : GateEntry}
    (h : readEntry position (.map raw) = .ok e) {name : String}
    (hname : name ∈ ["index", "time_interval_ns"]) {v : Value} (hv : v.infinity?.isSome = true) :
    readEntry position (.map (raw.put name v)) = .error .infinite := by
  have hnull : v.isNull = false := by
    cases v with
    | null => cases hv
    | _ => rfl
  simp only [List.mem_cons, List.not_mem_nil, or_false] at hname
  rcases hname with rfl | rfl
  · simp only [readEntry, Entries.valueAt?_put, if_true, Option.getD_some, integerOf_of_infinity hv]
    rfl
  · -- the index and the operation are those of the entry that was read
    obtain ⟨index, hindex, h⟩ := bind_eq_ok.1 h
    dsimp only at h
    split at h
    · cases h
    · obtain ⟨op, hop, -⟩ := bind_eq_ok.1 h
      simp only [readEntry, Entries.valueAt, Entries.valueAt?_put, if_true, Option.getD_some, hnull,
        integerOf_of_infinity hv]
      rw [if_neg (by decide), hindex]
      change (operationOf index _ >>= _) = _
      rw [if_neg (by decide)]
      simp only [Entries.valueAt] at hop
      rw [hop]
      rfl

/-- Among entries that are read, each is read by itself. -/
theorem readEntries_around {position : Nat} {pre post : List Value} {v : Value} {es : List GateEntry}
    (h : readEntries position (pre ++ v :: post) = .ok es) :
    ∃ before e after, es = before ++ e :: after ∧ before.length = pre.length ∧
      readEntry (position + pre.length) v = .ok e ∧
      ∀ w, readEntries position (pre ++ w :: post) = do
        return before ++ (← readEntry (position + pre.length) w) :: after := by
  induction pre generalizing position es with
  | nil =>
    rw [List.nil_append, readEntries] at h
    obtain ⟨e, he, h⟩ := bind_eq_ok.1 h
    obtain ⟨after, hafter, h⟩ := bind_eq_ok.1 h
    obtain rfl := Except.ok.inj h
    refine ⟨[], e, after, rfl, rfl, he, fun w => ?_⟩
    rw [List.nil_append, readEntries, hafter]
    rfl
  | cons u pre ih =>
    rw [List.cons_append, readEntries] at h
    obtain ⟨e', he', h⟩ := bind_eq_ok.1 h
    obtain ⟨rest, hrest, h⟩ := bind_eq_ok.1 h
    obtain rfl := Except.ok.inj h
    obtain ⟨before, e, after, rfl, hlength, he, haround⟩ := ih hrest
    have hplace : position + 1 + pre.length = position + (u :: pre).length := by
      rw [List.length_cons]
      omega
    rw [hplace] at he haround
    refine ⟨e' :: before, e, after, rfl, congrArg Nat.succ hlength, he, fun w => ?_⟩
    rw [List.cons_append, readEntries, he', haround]
    cases readEntry (position + (u :: pre).length) w <;> rfl

theorem readEntries_put_of_infinity {position : Nat} {raw : Entries} {pre post : List Value}
    {es : List GateEntry} (h : readEntries position (pre ++ .map raw :: post) = .ok es) {name : String}
    (hname : name ∈ ["index", "time_interval_ns"]) {v : Value} (hv : v.infinity?.isSome = true) :
    readEntries position (pre ++ .map (raw.put name v) :: post) = .error .infinite := by
  obtain ⟨before, e, after, -, -, he, haround⟩ := readEntries_around h
  rw [haround, readEntry_put_of_infinity he hname hv]
  rfl

/-- What is read on the way to a schedule. -/
structure Stages (doc : Entries) (s : Schedule) (items : List Value) : Prop where
  name : nameCheck doc = .ok ()
  id : (idOf doc).hasText = true ∧ (idOf doc).text = s.id
  baseTime : integerField doc ["base_time_ns", "base_time"] "base_time_ns" = .ok s.baseTime
  cycleTime : integerField doc ["cycle_time_ns", "cycle_time"] "cycle_time_ns" = .ok s.cycleTime
  adminState : stateOf doc = .ok s.adminState
  offset : offsetOf (doc.valueAt "interface_time_offset_ns") = .ok s.offset
  members : entryList (doc.valueAt "entries") = .ok items
  entries : readEntries 0 items = .ok s.entries

theorem stages_of_eq_ok {doc : Entries} {s : Schedule} (h : readEntriesOf doc = .ok s) :
    ∃ items, Stages doc s items := by
  rw [readEntriesOf_eq] at h
  obtain ⟨⟨⟩, hname, h⟩ := bind_eq_ok.1 h
  obtain ⟨baseTime, hbase, h⟩ := bind_eq_ok.1 h
  obtain ⟨cycleTime, hcycle, h⟩ := bind_eq_ok.1 h
  obtain ⟨adminState, hstate, h⟩ := bind_eq_ok.1 h
  obtain ⟨offset, hoffset, h⟩ := bind_eq_ok.1 h
  obtain ⟨items, hitems, h⟩ := bind_eq_ok.1 h
  obtain ⟨entries, hentries, h⟩ := bind_eq_ok.1 h
  obtain ⟨id, hid, h⟩ := bind_eq_ok.1 h
  obtain rfl := Except.ok.inj h
  exact ⟨items, hname, textOf_eq_ok.1 hid, hbase, hcycle, hstate, hoffset, hitems, hentries⟩

section

variable {doc : Entries} {doc' : Value} {s : Schedule} {items : List Value} {v : Value}

theorem idOf_put {name : String} (hname : name ∉ ["schedule_id", "id"]) : idOf (doc.put name v) = idOf doc := by
  simp only [List.mem_cons, List.not_mem_nil, or_false, not_or] at hname
  simp only [idOf, Entries.valueAt, Entries.valueAt?_put, if_neg (Ne.symm hname.1), if_neg (Ne.symm hname.2)]
  rfl

theorem nameCheck_put {name : String} (hname : name ∉ ["feature", "schedule_id", "id"]) :
    nameCheck (doc.put name v) = nameCheck doc := by
  rw [List.mem_cons, not_or] at hname
  rw [nameCheck, nameCheck, idOf_put hname.2, Entries.valueAt?_put_of_ne doc (Ne.symm hname.1)]

theorem integerField_put {name first other : String} (hfirst : first ≠ name) (hother : other ≠ name)
    (field : String) :
    integerField (doc.put name v) [first, other] field = integerField doc [first, other] field := by
  simp only [integerField, List.findSome?, Entries.valueAt?_put, if_neg hfirst, if_neg hother]

theorem integerField_put_self {name other : String} (hv : v.infinity?.isSome = true) (field : String) :
    integerField (doc.put name v) [name, other] field = .error .infinite := by
  simp only [integerField, List.findSome?, Entries.valueAt?_put, if_true, integerOf_of_infinity hv]

theorem stateOf_put {name : String} (hname : "admin_state" ≠ name) :
    stateOf (doc.put name v) = stateOf doc := by
  simp only [stateOf, Entries.valueAt?_put, if_neg hname]

/-- Other entries in a document that is read: they alone decide. -/
theorem Stages.put_entries (h : Stages doc s items) :
    readEntriesOf (doc.put "entries" v) = do
      let entries ← readEntries 0 (← entryList v)
      return { s with entries } := by
  rw [readEntriesOf_eq, nameCheck_put (by decide), idOf_put (by decide), integerField_put (by decide) (by decide),
    integerField_put (by decide) (by decide), stateOf_put (by decide), Entries.valueAt_put_of_ne _ (by decide),
    Entries.valueAt_put_self, h.name, h.baseTime, h.cycleTime, h.adminState, h.offset,
    textOf_eq_ok.2 h.id]
  rfl

/-- An infinity in place of a time of a document that is read. -/
theorem Stages.put_infinity (h : Stages doc s items) (hv : v.infinity?.isSome = true) {name : String}
    (hname : name ∈ ["base_time_ns", "cycle_time_ns", "interface_time_offset_ns"]) :
    readEntriesOf (doc.put name v) = .error .infinite := by
  simp only [List.mem_cons, List.not_mem_nil, or_false] at hname
  rw [readEntriesOf_eq]
  rcases hname with rfl | rfl | rfl
  · rw [nameCheck_put (by decide), h.name, integerField_put_self hv]
    rfl
  · rw [nameCheck_put (by decide), h.name, integerField_put (by decide) (by decide), h.baseTime,
      integerField_put_self hv]
    rfl
  · have hoffset : offsetOf v = .error .infinite := by
      rw [offsetOf, integerOf_of_infinity hv]
      cases v with
      | null => cases hv
      | _ => rfl
    rw [nameCheck_put (by decide), h.name, integerField_put (by decide) (by decide), h.baseTime,
      integerField_put (by decide) (by decide), h.cycleTime, stateOf_put (by decide), h.adminState,
      Entries.valueAt_put_self, hoffset]
    rfl

theorem readEntriesOf_put_feature (h : ¬v.hasText = true) :
    readEntriesOf (doc.put "feature" v) = .error (.feature v) := by
  have hfeature : v.isText Schedule.feature = false := by
    rw [← Bool.not_eq_true, Value.isText_iff]
    rintro rfl
    exact h Value.hasText_str
  rw [readEntriesOf_eq, nameCheck, Entries.valueAt?_put, if_pos rfl]
  simp only [Option.getD_some, hfeature]
  rfl

theorem nameCheck_eq_ok : nameCheck doc = .ok () ↔
    ((doc.valueAt? "feature").getD (.str Schedule.feature)).isText Schedule.feature = true ∧
      (idOf doc).isGiven = true := by
  rw [nameCheck]
  cases ((doc.valueAt? "feature").getD (.str Schedule.feature)).isText Schedule.feature <;>
    cases (idOf doc).isGiven <;> simp

theorem idOf_put_of_isGiven (h : v.isGiven = true) : idOf (doc.put "schedule_id" v) = v := by
  rw [idOf, Entries.valueAt_put_self]
  exact if_pos h

/-- A value without a text where a text of the document belongs. -/
theorem Stages.put_long (h : Stages doc s items) (hv : ¬v.hasText = true) {name : String}
    (hname : name ∈ ["feature", "schedule_id", "admin_state"]) :
    ∃ f, readEntriesOf (doc.put name v) = .error f ∧ f.isWritten = false := by
  simp only [List.mem_cons, List.not_mem_nil, or_false] at hname
  rcases hname with rfl | rfl | rfl
  · refine ⟨_, readEntriesOf_put_feature hv, ?_⟩
    rw [Fault.isWritten, ← Bool.not_eq_true]
    exact hv
  · refine ⟨.unwritten, ?_, rfl⟩
    have hid : idOf (doc.put "schedule_id" v) = v := idOf_put_of_isGiven (Value.isGiven_of_not_hasText hv)
    have hname : nameCheck (doc.put "schedule_id" v) = .ok () := by
      rw [nameCheck_eq_ok, hid, Entries.valueAt?_put_of_ne doc (by decide)]
      exact ⟨(nameCheck_eq_ok.1 h.name).1, Value.isGiven_of_not_hasText hv⟩
    rw [readEntriesOf_eq, hname, integerField_put (by decide) (by decide), h.baseTime,
      integerField_put (by decide) (by decide), h.cycleTime, stateOf_put (by decide), h.adminState,
      Entries.valueAt_put_of_ne doc (by decide), h.offset, Entries.valueAt_put_of_ne doc (by decide), h.members, hid,
      textOf_of_not_hasText hv]
    change (readEntries 0 items >>= _) = _
    rw [h.entries]
    rfl
  · refine ⟨.unwritten, ?_, rfl⟩
    have hstate : stateOf (doc.put "admin_state" v) = .error .unwritten := by
      rw [stateOf, Entries.valueAt?_put, if_pos rfl, Option.getD_some, textOf_of_not_hasText hv]
      rfl
    rw [readEntriesOf_eq, nameCheck_put (by decide), h.name, integerField_put (by decide) (by decide), h.baseTime,
      integerField_put (by decide) (by decide), h.cycleTime, hstate]
    rfl

/-- A document fails with a fault from outside, of this kind. -/
def FailsWith (doc : Value) (kind : FaultKind) : Prop :=
  ∃ f : GateRollout.Fault, parse doc = .error (.fault f) ∧ f.kind = kind

theorem failsWith_of_infinite (h : readEntriesOf doc = .error .infinite) :
    FailsWith (.map doc) .overflow := ⟨_, by rw [parse, read, h]; rfl, rfl⟩

theorem failsWith_of_not_isWritten {f : Fault} (h : read doc' = .error f) (hf : f.isWritten = false) :
    FailsWith doc' .wrongValue := by
  refine ⟨.unwritten, ?_, rfl⟩
  rw [parse, h, mapError_error, toFailure_of_not_isWritten hf]
  rfl

theorem Stages.failsWith_entries (h : Stages doc s items) (hgiven : v.isGiven = true)
    (hmembers : v.members? = none) : FailsWith (.map (doc.put "entries" v)) .wrongType := by
  have hlist : entryList v = .error (.entriesNotIterable v) := by
    rw [entryList, if_pos hgiven, hmembers]
  exact ⟨_, by rw [parse, read, h.put_entries, hlist]; rfl, rfl⟩

theorem Stages.failsWith_entry (h : Stages doc s items) (hv : v.infinity?.isSome = true)
    {raw : Entries} {pre post : List Value}
    (hentries : doc.valueAt "entries" = .list (pre ++ .map raw :: post)) {name : String}
    (hname : name ∈ ["index", "time_interval_ns"]) :
    FailsWith (.map (doc.put "entries" (.list (pre ++ .map (raw.put name v) :: post)))) .overflow := by
  have hlist : ∀ w : Value, entryList (.list (pre ++ w :: post)) = .ok (pre ++ w :: post) := by
    intro w
    rw [entryList, if_pos (by simp [Value.isGiven]), Value.members?]
  obtain rfl := Except.ok.inj ((hlist _).symm.trans (hentries ▸ h.members))
  refine failsWith_of_infinite ?_
  rw [h.put_entries, hlist]
  change (readEntries 0 _ >>= _) = _
  rw [readEntries_put_of_infinity h.entries hname hv]
  rfl

end

/-! ## What reading comes to -/

/-- A document that gives entries which cannot be gone through. -/
def HasEntriesWithoutMembers (doc : Value) : Prop :=
  ∃ es : Entries, doc = .map es ∧ (es.valueAt "entries").isGiven = true ∧
    (es.valueAt "entries").members? = none

/-- A document with an infinity where an integer belongs. -/
def HasInfinity (doc : Value) : Prop :=
  ∃ (es : Entries) (v : Value), doc = .map es ∧ DocumentIntegers es v ∧ v.infinity?.isSome = true

/-- A document that holds, or stands for, an integer of too many digits. -/
def HasLong (doc : Value) : Prop :=
  ∃ (es : Entries) (v : Value), doc = .map es ∧ DocumentValues es v ∧ IsLong v

/-- A document is a schedule, or it is reported as an error of the document, or it escapes because its
entries cannot be gone through, an infinity stands where an integer belongs, or an integer is too long to be
written.  And these do escape, in every document that is a schedule but for them: an integer that is too long
does so where a text belongs. -/
theorem parse_outcome (doc : Value) :
    ((∃ s, parse doc = .ok s) ∨
      (∃ e : RolloutError, parse doc = .error (.error e) ∧ e.kind = .parse) ∨
      (HasEntriesWithoutMembers doc ∧ FailsWith doc .wrongType) ∨
      (HasInfinity doc ∧ FailsWith doc .overflow) ∨
      (HasLong doc ∧ FailsWith doc .wrongValue)) ∧
    ∀ (es : Entries) (s : Schedule), doc = .map es → parse doc = .ok s →
      (∀ v : Value, v.isGiven = true → v.members? = none →
        FailsWith (.map (es.put "entries" v)) .wrongType) ∧
      (∀ v : Value, v.infinity?.isSome = true →
        (∀ name ∈ ["base_time_ns", "cycle_time_ns", "interface_time_offset_ns"],
          FailsWith (.map (es.put name v)) .overflow) ∧
        ∀ (raw : Entries) (pre post : List Value),
          es.valueAt "entries" = .list (pre ++ .map raw :: post) →
          ∀ name ∈ ["index", "time_interval_ns"],
            FailsWith (.map (es.put "entries" (.list (pre ++ .map (raw.put name v) :: post))))
              .overflow) ∧
      ∀ v : Value, ¬v.hasText = true → ∀ name ∈ ["feature", "schedule_id", "admin_state"],
        FailsWith (.map (es.put name v)) .wrongValue := by
  constructor
  · cases hread : read doc with
    | ok s => exact .inl ⟨s, by rw [parse, hread]; rfl⟩
    | error f =>
      have hparse : parse doc = .error f.toFailure := by
        rw [parse, hread]
        rfl
      rw [hparse]
      cases doc with
      | map es =>
        rcases reports_readEntriesOf es f hread with ⟨e, he, hkind⟩ | ⟨rfl, hgiven, hmembers⟩ | hslips
        · exact .inr (.inl ⟨e, by rw [he], hkind⟩)
        · exact .inr (.inr (.inl ⟨⟨es, rfl, hgiven, hmembers⟩, _, hparse, rfl⟩))
        · cases hslips with
          | infinite hv h => exact .inr (.inr (.inr (.inl ⟨⟨es, _, rfl, hv, h⟩, _, hparse, rfl⟩)))
          | unwritten hf hv h =>
            exact .inr (.inr (.inr (.inr ⟨⟨es, _, rfl, hv, h⟩, failsWith_of_not_isWritten hread hf⟩)))
      | _ =>
        obtain rfl := (Except.error.inj hread).symm
        exact .inr (.inl ⟨_, rfl, rfl⟩)
  · rintro es s rfl hs
    obtain ⟨items, hstages⟩ := stages_of_eq_ok (mapError_eq_ok.1 hs)
    refine ⟨fun v => hstages.failsWith_entries, fun v hv => ⟨fun name hname => ?_, ?_⟩, fun v hv name hname => ?_⟩
    · exact failsWith_of_infinite (hstages.put_infinity hv hname)
    · intro raw pre post hentries name hname
      exact hstages.failsWith_entry hv hentries hname
    · obtain ⟨f, hf, hwritten⟩ := hstages.put_long hv hname
      exact failsWith_of_not_isWritten hf hwritten

/-- A document whose entries are a number. -/
def numberedEntries : Value :=
  .map [(.str "schedule_id", .str "s"), (.str "base_time_ns", .int 0), (.str "cycle_time_ns", .int 1000),
    (.str "entries", .int 5)]

/-- Not every document is a schedule or reported. -/
theorem numberedEntries_escape :
    ¬∀ doc, (∃ s, parse doc = .ok s) ∨
      ∃ e : RolloutError, parse doc = .error (.error e) ∧ e.kind = .parse := by
  intro h
  rcases h numberedEntries with ⟨s, hs⟩ | ⟨e, he, -⟩
  · cases hs
  · cases he

end GateRollout.Document
