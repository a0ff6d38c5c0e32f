import GateRollout.Proofs.Schedule.MarkedHex

/-!
# Gate states that are accepted

Which values an entry of a document may have as its gate states, and which bytes they come to.  Any other
value is reported as an error of the document.
-/

namespace GateRollout.Document

open Text

variable {bs : List UInt8}

/-! ## Values -/

/-- A value stands for a byte in a list of gate states: a number that a byte can be and, where `loose` is
so, also a boolean, for one or zero. -/
inductive DenotesByte (loose : Prop) : Value → UInt8 → Prop
  | int (b : UInt8) : DenotesByte loose (.int b.toNat) b
  | bool (b : Bool) : loose → DenotesByte loose (.bool b) (if b then 1 else 0)

/-- A value stands for gate states: nothing, a byte, a list of bytes, bytes as they are, or text of bytes in
hexadecimal digits.  Where `loose` is so, this is what is accepted; where it is not, it leaves out booleans
in a list and marks within a byte. -/
inductive DenotesStates (loose : Prop) : Value → List UInt8 → Prop
  | null : DenotesStates loose .null []
  | int (b : UInt8) : DenotesStates loose (.int b.toNat) [b]
  | list {items : List Value} {bs : List UInt8} : List.Forall₂ (DenotesByte loose) items bs →
      DenotesStates loose (.list items) bs
  | tuple {items : List Value} {bs : List UInt8} : List.Forall₂ (DenotesByte loose) items bs →
      DenotesStates loose (.tuple items) bs
  | bytes (bs : List UInt8) : DenotesStates loose (.bytes bs) bs
  | text {s : String} {bs : List UInt8} : MarkedHex loose (trim s.toList) bs → DenotesStates loose (.str s) bs

theorem byteOf_eq_ok_iff {v : Value} {b : UInt8} : byteOf v = .ok b ↔ DenotesByte True v b := by
  constructor
  · intro h
    cases v with
    | int n =>
      simp only [byteOf] at h
      split at h
      · case _ hrange =>
        obtain rfl := Except.ok.inj h
        have hn : ((UInt8.ofNat n.toNat).toNat : Int) = n := by
          rw [UInt8.toNat_ofNat']
          omega
        have hbyte : DenotesByte True (.int (UInt8.ofNat n.toNat).toNat) _ := .int _
        rwa [hn] at hbyte
      · cases h
    | bool c =>
      obtain rfl := Except.ok.inj h
      exact .bool c trivial
    | _ => cases h
  · rintro (b | ⟨b, -⟩)
    · exact byteOf_toNat b
    · rfl

theorem gateStatesOf_eq_ok_iff {v : Value} {bs : List UInt8} :
    gateStatesOf v = .ok bs ↔ DenotesStates True v bs := by
  constructor
  · intro h
    cases v with
    | null =>
      obtain rfl := Except.ok.inj h
      exact .null
    | int n =>
      rw [gateStatesOf] at h
      cases hbyte : byteOf (.int n) with
      | error f => simp [hbyte, Except.map] at h
      | ok b =>
        rw [hbyte] at h
        obtain rfl := Except.ok.inj h
        obtain ⟨b⟩ := byteOf_eq_ok_iff.1 hbyte
        exact .int b
    | list items => exact .list ((mapM_eq_ok_iff.1 h).imp fun _ _ => byteOf_eq_ok_iff.1)
    | tuple items => exact .tuple ((mapM_eq_ok_iff.1 h).imp fun _ _ => byteOf_eq_ok_iff.1)
    | bytes bs' =>
      obtain rfl := Except.ok.inj h
      exact .bytes _
    | str s => exact .text (readHex_eq_ok_iff.1 (mapError_eq_ok.1 h))
    | _ => cases h
  · rintro (_ | b | hitems | hitems | _ | htext)
    · rfl
    · rw [gateStatesOf, byteOf_toNat]
      rfl
    · exact mapM_eq_ok_iff.2 (hitems.imp fun _ _ => byteOf_eq_ok_iff.2)
    · exact mapM_eq_ok_iff.2 (hitems.imp fun _ _ => byteOf_eq_ok_iff.2)
    · rfl
    · exact mapError_eq_ok.2 (readHex_eq_ok_iff.2 htext)

example : gateStatesOf (.str "f0x0") = .ok [0xf0] := by rfl

/-- A boolean in a list, or a mark within a byte of a text. -/
def IsLoose (v : Value) : Prop :=
  (∃ items b, (v = .list items ∨ v = .tuple items) ∧ Value.bool b ∈ items) ∨
    ∃ s, v = .str s ∧ SplitsByte (trim s.toList)

theorem DenotesByte.mono {v : Value} {b : UInt8} (h : DenotesByte False v b) : DenotesByte True v b := by
  cases h with
  | int b => exact .int b
  | bool _ h => exact h.elim

theorem DenotesStates.mono {v : Value} (h : DenotesStates False v bs) : DenotesStates True v bs := by
  cases h with
  | null => exact .null
  | int => exact .int _
  | list h => exact .list (h.imp fun _ _ => DenotesByte.mono)
  | tuple h => exact .tuple (h.imp fun _ _ => DenotesByte.mono)
  | bytes => exact .bytes bs
  | text h => exact .text h.mono

theorem DenotesByte.ne_bool {v : Value} {b : UInt8} (h : DenotesByte False v b) (c : Bool) :
    v ≠ .bool c := by
  rintro rfl
  cases h with
  | bool _ hloose => exact hloose

theorem forall₂_ne_bool {items : List Value} (h : List.Forall₂ (DenotesByte False) items bs) :
    ∀ v ∈ items, ∀ c, v ≠ .bool c :=
  ((List.forall₂_and_left _ _).1 (h.imp fun _ _ hv => ⟨hv.ne_bool, hv⟩)).1

theorem DenotesStates.not_isLoose {v : Value} (h : DenotesStates False v bs) : ¬IsLoose v := by
  rintro (⟨items, b, rfl | rfl, hmem⟩ | ⟨s, rfl, hsplits⟩)
  · obtain - | - | hitems := h
    exact forall₂_ne_bool hitems _ hmem b rfl
  · obtain - | - | - | hitems := h
    exact forall₂_ne_bool hitems _ hmem b rfl
  · obtain - | - | - | - | - | htext := h
    exact htext.not_splitsByte hsplits

theorem forall₂_strict_or_bool {items : List Value} (h : List.Forall₂ (DenotesByte True) items bs) :
    List.Forall₂ (DenotesByte False) items bs ∨ ∃ b, Value.bool b ∈ items := by
  induction h with
  | nil => exact .inl .nil
  | cons hitem _ ih =>
    cases hitem with
    | int =>
      exact ih.imp (.cons (.int _)) fun ⟨b, hb⟩ => ⟨b, List.mem_cons_of_mem _ hb⟩
    | bool b => exact .inr ⟨b, List.mem_cons_self⟩

theorem DenotesStates.strict_or_loose {v : Value} (h : DenotesStates True v bs) :
    DenotesStates False v bs ∨ IsLoose v := by
  cases h with
  | null => exact .inl .null
  | int b => exact .inl (.int b)
  | list h =>
    exact (forall₂_strict_or_bool h).imp .list fun ⟨b, hb⟩ => .inl ⟨_, b, .inl rfl, hb⟩
  | tuple h =>
    exact (forall₂_strict_or_bool h).imp .tuple fun ⟨b, hb⟩ => .inl ⟨_, b, .inr rfl, hb⟩
  | bytes => exact .inl (.bytes bs)
  | text h => exact h.strict_or_splits.imp .text fun h => .inr ⟨_, rfl, h⟩

/-! ## Documents -/

/-- The entry of a schedule at a place with other gate states. -/
def withStates (s : Schedule) (place : Nat) (bs : List UInt8) : Schedule :=
  { s with entries := s.entries.modify place fun e => { e with gateStates := bs } }

theorem readEntry_put_gate_states {position : Nat} {raw : Entries} {e : GateEntry}
    (h : readEntry position (.map raw) = .ok e) (v : Value) :
    readEntry position (.map (raw.put "gate_states" v)) = do
      return { e with gateStates := ← (gateStatesOf v).mapError (Fault.gateStates e.index) } := by
  obtain ⟨index, hindex, h⟩ := bind_eq_ok.1 h
  dsimp only at h
  split at h
  · cases h
  · case _ hnull =>
    obtain ⟨op, hop, h⟩ := bind_eq_ok.1 h
    obtain ⟨length, hlength, h⟩ := bind_eq_ok.1 h
    obtain ⟨states, -, h⟩ := bind_eq_ok.1 h
    obtain rfl := Except.ok.inj h
    simp only [Entries.valueAt] at hnull hop hlength
    simp only [readEntry, Entries.valueAt, Entries.valueAt?_put]
    simp +decide only [if_false, if_true, hindex, hnull, hlength]
    change (operationOf index _ >>= _) = _
    rw [hop]
    rfl

/-- A document with other gate states in one of its entries. -/
def withGiven (doc : Entries) (pre : List Value) (raw : Entries) (post : List Value) (v : Value) : Value :=
  .map (doc.put "entries" (.list (pre ++ .map (raw.put "gate_states" v) :: post)))

section

variable {doc raw : Entries} {s : Schedule} {pre post : List Value}

theorem parse_withGiven (h : parse (.map doc) = .ok s)
    (hentries : doc.valueAt "entries" = .list (pre ++ .map raw :: post)) :
    ∃ e, s.entries[pre.length]? = some e ∧ ∀ v, parse (withGiven doc pre raw post v) =
      ((gateStatesOf v).map (withStates s pre.length)).mapError fun cause =>
        (Fault.gateStates e.index cause).toFailure := by
  obtain ⟨items, hstages⟩ := stages_of_eq_ok (mapError_eq_ok.1 h)
  have hitems := hstages.members
  rw [hentries, entryList_list] at hitems
  obtain rfl := Except.ok.inj hitems
  obtain ⟨before, e, after, hs, hlength, he, haround⟩ := readEntries_around hstages.entries
  refine ⟨e, by simp [hs, ← hlength], fun v => ?_⟩
  rw [parse, withGiven, read, hstages.put_entries, entryList_list]
  change Except.mapError _ (readEntries 0 _ >>= _) = _
  rw [haround, readEntry_put_gate_states he]
  have hmodify : ∀ f : GateEntry → GateEntry,
      s.entries.modify pre.length f = before ++ f e :: after := by
    intro f
    rw [hs, ← hlength]
    exact List.modifyTailIdx_add _ 0 before (e :: after)
  cases gateStatesOf v with
  | error cause => rfl
  | ok bs =>
    change Except.ok { s with entries := before ++ { e with gateStates := bs } :: after } = _
    rw [← hmodify fun e => { e with gateStates := bs }]
    rfl

/-- The document with some gate states is a schedule just where they stand for bytes, and then these are
the bytes of its entry; else it is an error of the document, which names the index of the entry.  What stands
for bytes is nothing, a byte, a list of bytes, bytes, or their text in hexadecimal digits; and beyond that a
boolean in a list, and a text with a mark within a byte. -/
theorem gate_states_accepted_iff (h : parse (.map doc) = .ok s)
    (hentries : doc.valueAt "entries" = .list (pre ++ .map raw :: post)) (v : Value) :
    (∀ s', parse (withGiven doc pre raw post v) = .ok s' ↔
      ∃ bs, DenotesStates True v bs ∧ s' = withStates s pre.length bs) ∧
    ((∀ bs, ¬DenotesStates True v bs) →
      (∀ entry, s.entries[pre.length]? = some entry → Text.isWritten entry.index = true) →
      ∃ e : RolloutError, parse (withGiven doc pre raw post v) = .error (.error e) ∧ e.kind = .parse) ∧
    ∀ bs, DenotesStates False v bs ↔ DenotesStates True v bs ∧ ¬IsLoose v := by
  obtain ⟨entry, hentry, hparse⟩ := parse_withGiven h hentries
  rw [hparse v]
  refine ⟨fun s' => ?_, fun hnone hindex => ?_, fun bs => ?_⟩
  · simp only [← gateStatesOf_eq_ok_iff]
    cases gateStatesOf v with
    | error cause => simp [Except.map]
    | ok bs => simp [Except.map, eq_comm]
  · cases hstates : gateStatesOf v with
    | error cause => exact ⟨_, congrArg Except.error (if_pos (hindex entry hentry)), rfl⟩
    | ok bs => exact absurd (gateStatesOf_eq_ok_iff.1 hstates) (hnone bs)
  · refine ⟨fun hstrict => ⟨hstrict.mono, hstrict.not_isLoose⟩, fun ⟨hbytes, hnot⟩ => ?_⟩
    exact hbytes.strict_or_loose.resolve_right hnot

end

/-- The entries of a document with an entry of gate states, the second of two. -/
def twoEntries : Entries :=
  [(.str "id", .str "s"), (.str "base_time", .int 0), (.str "cycle_time", .int 1000),
    (.str "entries", .list [.map [(.str "time_interval", .int 400)], .map [(.str "time_interval", .int 600)]])]

theorem gate_states_accepted_iff_text :
    ∃ s, parse (.map twoEntries) = .ok s ∧
      parse (withGiven twoEntries [.map [(.str "time_interval", .int 400)]]
        [(.str "time_interval", .int 600)] [] (.str " 0X0f\t0xA3 ")) = .ok (withStates s 1 [0x0f, 0xa3]) := by
  obtain ⟨s, hs⟩ : ∃ s, parse (.map twoEntries) = .ok s := ⟨_, rfl⟩
  refine ⟨s, hs, ?_⟩
  have htrim : trim " 0X0f\t0xA3 ".toList = "0X0f\t0xA3".toList := by decide
  have hhex : MarkedHex True "0X0f\t0xA3".toList [0x0f, 0xa3] :=
    .mark .upper (.byte (.inl (by decide)) .nil (by simp) (.inl (by decide))
      (.blank (by decide) (.mark .lower (.byte (.inr (by decide)) .nil (by simp) (.inl (by decide)) .nil))))
  exact ((gate_states_accepted_iff hs rfl _).1 _).2 ⟨_, .text (htrim ▸ hhex), rfl⟩

/-- Not only the spellings of bytes are accepted: a boolean in a list is. -/
theorem booleans_are_accepted : ¬∀ (doc raw : Entries) (s : Schedule) (pre post : List Value) (v : Value),
    parse (.map doc) = .ok s → doc.valueAt "entries" = .list (pre ++ .map raw :: post) →
    ((∃ s', parse (withGiven doc pre raw post v) = .ok s') ↔ ∃ bs, DenotesStates False v bs) := by
  intro h
  obtain ⟨s, hs⟩ : ∃ s, parse (.map twoEntries) = .ok s := ⟨_, rfl⟩
  obtain ⟨bs, hbs⟩ := (h twoEntries [(.str "time_interval", .int 400)] s []
    [.map [(.str "time_interval", .int 600)]] (.list [.bool true]) hs rfl).1 ⟨_, rfl⟩
  exact hbs.not_isLoose (.inl ⟨_, true, .inl rfl, List.mem_cons_self⟩)

end GateRollout.Document
