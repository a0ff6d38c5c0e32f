import GateRollout.Proofs.Mapping.Rendering
import GateRollout.Proofs.Schedule.Check
import GateRollout.Proofs.Text.Numeral
import Mathlib.Data.List.Forall2
import Mathlib.Data.Nat.Bitwise

/-!
# Tables are exact

The table of a schedule says what the schedule says: the same cycle time in other units, the same base
time in two parts, the same entries in the same order, all within the ranges of the schema.  Nothing is
rounded, and nothing is mapped that does not fit.
-/

namespace GateRollout

open Check

/-- A table entry that says what an entry of a schedule says. -/
structure TableEntry.Expresses (e : GateEntry) (x : TableEntry) : Prop where
  index : x.index = e.index
  index_fits : 0 ≤ x.index ∧ x.index ≤ 4294967295
  interval : x.interval = e.interval
  interval_fits : 0 ≤ x.interval ∧ x.interval ≤ 4294967295
  ownOperation : ∀ op, e.operation = some op → x.operation = op.name
  noOperation : e.operation = none → x.operation = "set-gate-states"
  noStates : x.gateStates = none ↔ e.gateStates = []
  states : ∀ b rest, e.gateStates = b :: rest → x.gateStates = some (b.toNat : Int)
  states_fit : ∀ v, x.gateStates = some v → 0 ≤ v ∧ v ≤ 255

/-- The first gate states that any entry has, where one has any. -/
inductive IsFirstStates : List GateEntry → Option Int → Prop where
  | none {entries : List GateEntry} (h : ∀ e ∈ entries, e.gateStates = []) : IsFirstStates entries none
  | some {before after : List GateEntry} {e : GateEntry} {b : UInt8} {rest : List UInt8}
      (h : ∀ x ∈ before, x.gateStates = []) (he : e.gateStates = b :: rest) :
      IsFirstStates (before ++ e :: after) (some b.toNat)

/-- The gates that any entry opens, each by its bit in the first byte of that entry. -/
structure IsUnionStates (entries : List GateEntry) (v : Option Int) (n : Nat) : Prop where
  eq : v = some (n : Int)
  testBit_iff : ∀ i, n.testBit i = true ↔
    ∃ e ∈ entries, ∃ b rest, e.gateStates = b :: rest ∧ b.toNat.testBit i = true
  eq_zero : (∀ e ∈ entries, e.gateStates = []) → n = 0

/-- A table that says what a schedule says, with the cycle time in parts of a second. -/
structure GateTable.Expresses (denominator : Int) (s : Schedule) (t : GateTable) : Prop where
  numerator : ∃ n : Int, t.cycleNumerator = .int n ∧ n * 1000000000 = s.cycleTime * denominator ∧
    1 ≤ n ∧ n ≤ 4294967295
  denominator : t.cycleDenominator = .int denominator
  baseTime : t.baseSeconds * 1000000000 + t.baseNanoseconds = s.baseTime
  seconds : 0 ≤ t.baseSeconds
  nanoseconds : 0 ≤ t.baseNanoseconds ∧ t.baseNanoseconds < 1000000000
  entries : List.Forall₂ TableEntry.Expresses s.entries t.entries
  nodup : (t.entries.map TableEntry.index).Nodup
  gateEnabled : t.gateEnabled = true ↔ s.adminState = .enabled
  extension : t.extension = .int 0
  configChange : t.configChange = true

/-! ## Entries -/

theorem firstGateState?_eq (e : GateEntry) :
    e.firstGateState? = match e.gateStates with
      | [] => none
      | b :: _ => some b.toNat := by
  rw [GateEntry.firstGateState?]
  cases e.gateStates <;> rfl

theorem TableEntry.ofEntry_expresses {e : GateEntry} (hi : Fits32 e.index) (ht : Fits32 e.interval) :
    TableEntry.Expresses e (.ofEntry e) where
  index := rfl
  index_fits := hi
  interval := rfl
  interval_fits := ht
  ownOperation op h := by simp [TableEntry.ofEntry, GateEntry.effectiveOperation, h]
  noOperation h := by simp [TableEntry.ofEntry, GateEntry.effectiveOperation, h, Operation.name]
  noStates := by
    simp only [TableEntry.ofEntry, firstGateState?_eq]
    cases e.gateStates <;> simp
  states b rest h := by simp [TableEntry.ofEntry, firstGateState?_eq, h]
  states_fit v h := by
    simp only [TableEntry.ofEntry, firstGateState?_eq] at h
    cases hs : e.gateStates with
    | nil => simp [hs] at h
    | cons b rest =>
      simp only [hs, Option.map_some, Option.some.injEq] at h
      have := b.toNat_lt
      subst h
      constructor
      · exact Int.natCast_nonneg _
      · exact Int.ofNat_le.2 (Nat.le_of_lt_succ this)

/-! ## Summaries -/

theorem firstStates?_isFirst (entries : List GateEntry) :
    IsFirstStates entries ((firstStates? entries).map Int.ofNat) := by
  induction entries with
  | nil => exact .none (by simp)
  | cons e rest ih =>
    rw [firstStates?, List.findSome?_cons, firstGateState?_eq]
    cases hs : e.gateStates with
    | cons b states => exact show IsFirstStates ([] ++ e :: rest) _ from .some (by simp) hs
    | nil =>
      dsimp only
      change IsFirstStates (e :: rest) ((firstStates? rest).map Int.ofNat)
      generalize (firstStates? rest).map Int.ofNat = v at ih ⊢
      cases ih with
      | none h => exact .none (List.forall_mem_cons.2 ⟨hs, h⟩)
      | @some before after x b states h hx =>
        show IsFirstStates ((e :: before) ++ x :: after) _
        exact .some (List.forall_mem_cons.2 ⟨hs, h⟩) hx

theorem testBit_unionStates (entries : List GateEntry) (i : Nat) :
    (unionStates entries).testBit i = true ↔
      ∃ e ∈ entries, ∃ b rest, e.gateStates = b :: rest ∧ b.toNat.testBit i = true := by
  have hfold : ∀ acc : Nat, (entries.foldl (fun acc e => acc ||| e.firstGateState?.getD 0) acc).testBit i
      = (acc.testBit i || entries.any fun e => (e.firstGateState?.getD 0).testBit i) := by
    induction entries with
    | nil => simp
    | cons e rest ih => intro acc; simp [ih, Nat.testBit_or, Bool.or_assoc]
  have hentry : ∀ e : GateEntry, (e.firstGateState?.getD 0).testBit i = true ↔
      ∃ b rest, e.gateStates = b :: rest ∧ b.toNat.testBit i = true := by
    intro e
    rw [firstGateState?_eq]
    cases e.gateStates with
    | nil => simp
    | cons b rest => simp
  rw [unionStates, hfold, Nat.zero_testBit, Bool.false_or, List.any_eq_true]
  simp only [hentry]

theorem unionStates_isUnion (entries : List GateEntry) :
    IsUnionStates entries (some (Int.ofNat (unionStates entries))) (unionStates entries) where
  eq := rfl
  testBit_iff := testBit_unionStates entries
  eq_zero h := by
    refine Nat.eq_of_testBit_eq fun i => ?_
    rw [Nat.zero_testBit, Bool.eq_false_iff]
    intro hi
    obtain ⟨e, he, b, rest, hs, -⟩ := (testBit_unionStates entries i).1 hi
    rw [h e he] at hs
    cases hs

/-! ## Tables -/

theorem splitBaseTime_spec {t : Int} (ht : 0 ≤ t) :
    (splitBaseTime t).1 * 1000000000 + (splitBaseTime t).2 = t ∧ 0 ≤ (splitBaseTime t).1 ∧
      0 ≤ (splitBaseTime t).2 ∧ (splitBaseTime t).2 < 1000000000 := by
  simp only [splitBaseTime, nanosPerSecond]
  omega

/-- A schedule has a table only when it is representable, and the table is made of its parts. -/
theorem ofSchedule_eq_ok {denominator : Int} {summary : Summary} {s : Schedule} {t : GateTable}
    (h : GateTable.ofSchedule denominator summary s = .ok t) :
    Representable denominator s ∧ ∃ n, numerator? denominator s.cycleTime = some n ∧
      t = {
        gateEnabled := s.adminState == .enabled
        adminGateStates := (summary.of s.entries).map Int.ofNat
        entries := s.entries.map TableEntry.ofEntry
        cycleNumerator := .int n
        cycleDenominator := .int denominator
        baseSeconds := (splitBaseTime s.baseTime).1
        baseNanoseconds := (splitBaseTime s.baseTime).2
        extension := .int 0
        configChange := true } := by
  rw [GateTable.ofSchedule] at h
  split at h
  case h_1 n hf hn => exact ⟨faults_eq_nil_iff.1 hf, n, hn, (Except.ok.inj h).symm⟩
  case h_2 => cases h

/-- The table of a schedule says what the schedule says. -/
theorem ofSchedule_expresses {denominator : Int} (hd : 0 < denominator) {summary : Summary} {s : Schedule}
    {t : GateTable} (h : GateTable.ofSchedule denominator summary s = .ok t) :
    t.Expresses denominator s ∧ t.adminGateStates = (summary.of s.entries).map Int.ofNat := by
  obtain ⟨hr, n, hn, rfl⟩ := ofSchedule_eq_ok h
  obtain ⟨hsum, hsec, hnano⟩ := splitBaseTime_spec hr.baseTime.1
  obtain ⟨n', hn', hmax⟩ := hr.numerator
  obtain rfl : n' = n := Option.some.inj ((numerator?_eq_some_iff.2 hn').symm.trans hn)
  refine ⟨⟨⟨n', rfl, hn', ?_, hmax⟩, rfl, hsum, hsec, hnano, ?_, ?_, by simp, rfl, rfl⟩, rfl⟩
  · have hpos : 0 < n' * nanosPerSecond := hn' ▸ Int.mul_pos hr.cycleTime hd
    exact Int.pos_of_mul_pos_left hpos (by decide)
  · rw [List.forall₂_map_right_iff, List.forall₂_same]
    exact fun e he => TableEntry.ofEntry_expresses (hr.indices e he) (hr.intervals e he)
  · rw [List.map_map]
    exact hr.nodup

/-! ## Numbers that are written -/

theorem isWritten_of_fits {n : Int} (h : 0 ≤ n ∧ n ≤ 18446744073709551615) : Text.isWritten n = true := by
  refine Text.isWritten_of_lt (k := 20) (by decide) ?_
  omega

theorem isWritten_byte {n : Nat} (h : n < 256) : Text.isWritten (Int.ofNat n) = true :=
  isWritten_of_fits (show 0 ≤ (n : Int) ∧ (n : Int) ≤ 18446744073709551615 by omega)

theorem firstGateState?_lt {e : GateEntry} {n : Nat} (h : e.firstGateState? = some n) : n < 256 := by
  rw [firstGateState?_eq] at h
  split at h
  · cases h
  · obtain rfl := Option.some.inj h
    exact UInt8.toNat_lt _

theorem unionStates_lt (entries : List GateEntry) : unionStates entries < 256 := by
  have hfold : ∀ acc < 256, entries.foldl (fun acc e => acc ||| e.firstGateState?.getD 0) acc < 256 := by
    induction entries with
    | nil => exact fun acc hacc => hacc
    | cons e rest ih =>
      intro acc hacc
      refine ih _ (Nat.or_lt_two_pow (n := 8) hacc ?_)
      cases h : e.firstGateState? with
      | none => decide
      | some n => exact firstGateState?_lt h
  exact hfold 0 (by decide)

/-- The summary of gate states is a byte. -/
theorem summary_lt {summary : Summary} {entries : List GateEntry} {n : Nat}
    (h : summary.of entries = some n) : n < 256 := by
  cases summary with
  | first =>
    obtain ⟨e, -, he⟩ := List.exists_of_findSome?_eq_some h
    exact firstGateState?_lt he
  | union => exact Option.some.inj h ▸ unionStates_lt entries

theorem TableEntry.isWritten_iff {e : TableEntry} :
    e.isWritten = true ↔ Text.isWritten e.index = true ∧ Text.isWritten e.interval = true ∧
      e.gateStates.all Text.isWritten = true := by
  simp only [isWritten, Bool.and_eq_true, and_assoc]

theorem GateTable.isWritten_iff {t : GateTable} :
    t.isWritten = true ↔ t.adminGateStates.all Text.isWritten = true ∧
      (∀ e ∈ t.entries, e.isWritten = true) ∧ t.cycleNumerator.isWritten = true ∧
      t.cycleDenominator.isWritten = true ∧ t.extension.isWritten = true ∧
      Text.isWritten t.baseSeconds = true ∧ Text.isWritten t.baseNanoseconds = true := by
  simp only [isWritten, Bool.and_eq_true, List.all_eq_true, and_assoc]

theorem isWritten_ofEntry {e : GateEntry} (hi : Fits32 e.index) (ht : Fits32 e.interval) :
    (TableEntry.ofEntry e).isWritten = true := by
  have hstates : (TableEntry.ofEntry e).gateStates.all Text.isWritten = true := by
    rw [Option.all_eq_true]
    intro v hv
    obtain ⟨n, hn, rfl⟩ := Option.map_eq_some_iff.1 hv
    exact isWritten_byte (firstGateState?_lt hn)
  simp only [Fits32, max32] at hi ht
  exact TableEntry.isWritten_iff.2
    ⟨isWritten_of_fits (n := e.index) (by omega), isWritten_of_fits (n := e.interval) (by omega), hstates⟩

/-- The numbers in the table of a schedule are short enough to be written. -/
theorem isWritten_ofSchedule {denominator : Int} (hdpos : 0 < denominator)
    (hd : Text.isWritten denominator = true) {summary : Summary} {s : Schedule} {t : GateTable}
    (h : GateTable.ofSchedule denominator summary s = .ok t) : t.isWritten = true := by
  obtain ⟨hexact, -⟩ := ofSchedule_expresses hdpos h
  obtain ⟨hr, n, hn, rfl⟩ := ofSchedule_eq_ok h
  obtain ⟨n', hnumerator, -, hlow, hhigh⟩ := hexact.numerator
  obtain rfl : n = n' := Number.int.inj hnumerator
  have hstates : ((summary.of s.entries).map Int.ofNat).all Text.isWritten = true := by
    rw [Option.all_eq_true]
    intro v hv
    obtain ⟨k, hk, rfl⟩ := Option.map_eq_some_iff.1 hv
    exact isWritten_byte (summary_lt hk)
  have hentries : ∀ x ∈ s.entries.map TableEntry.ofEntry, x.isWritten = true :=
    List.forall_mem_map.2 fun e he => isWritten_ofEntry (hr.indices e he) (hr.intervals e he)
  have hbase := hr.baseTime
  have hnano := hexact.nanoseconds
  have hseconds := hexact.seconds
  have hsum := hexact.baseTime
  simp only [max64] at hbase hnano hseconds hsum
  have hs : Text.isWritten (splitBaseTime s.baseTime).1 = true := isWritten_of_fits (by omega)
  have hns : Text.isWritten (splitBaseTime s.baseTime).2 = true := isWritten_of_fits (by omega)
  exact GateTable.isWritten_iff.2 ⟨hstates, hentries, isWritten_of_fits (n := n) (by omega), hd,
    isWritten_of_fits (n := 0) (by decide), hs, hns⟩

/-! ## The main statement -/

namespace Plugin

variable {σ : Type}

/-- Everything that a plugin has to tell of a schedule can be told. -/
def Tells (p : Plugin) (s : Schedule) : Prop :=
  isTold p.dialect.denominator s = true ∧ tellsOffset s = true

theorem mapped_schedule {p : Plugin} (hp : p.dialect ≠ .bare) (s : Schedule) :
    p.mapped (.schedule s) = p.mappedSchedule s := by
  rcases p with ⟨_ | _ | _, name, feature, required, generic⟩
  · rfl
  · rfl
  · exact absurd rfl hp

theorem mappedSchedule_eq_ok {p : Plugin} {s : Schedule} {m : Mapped} :
    p.mappedSchedule s = .ok m ↔ p.Tells s ∧ ∃ t, p.table s = .ok t ∧ .table t = m := by
  rw [mappedSchedule, Tells]
  cases isTold p.dialect.denominator s with
  | false => exact ⟨nofun, fun h => nomatch h.1.1⟩
  | true =>
    cases p.table s with
    | error f => exact ⟨nofun, fun ⟨_, _, h, _⟩ => nomatch h⟩
    | ok t => cases tellsOffset s <;> simp [bind, Except.bind, pure, Except.pure, throw, throwThe, MonadExceptOf.throw]

/-- What a plugin for schedules maps a schedule to is the schedule's table. -/
theorem map_eq_ok {p : Plugin} {d : Dialect} (hp : p.dialect = d) (hd : d ≠ .bare) {s : Schedule}
    {j j' : Journal σ} {m : Mapped} (h : (p.map (.schedule s)).exec j = (.ok m, j')) :
    ∃ t, m = .table t ∧ GateTable.ofSchedule d.denominator d.summary s = .ok t := by
  have hm : p.mapped (.schedule s) = .ok m := by
    rw [← (p.quiet_map (.schedule s) j).1, h]
  rw [mapped_schedule (hp ▸ hd), mappedSchedule_eq_ok, table, hp] at hm
  obtain ⟨-, t, ht, rfl⟩ := hm
  exact ⟨t, rfl, mapError_eq_ok.1 ht⟩

/-- Whatever modules it is made to require, a plugin that maps a schedule maps it to a table that says
what the schedule says: the standard one in nanoseconds and with the first gate states for all, the
legacy one in milliseconds and with all gates that are opened. -/
theorem mapped_table_exact (required : List SchemaModule) (s : Schedule) (j j' : Journal σ)
    (m : Mapped) :
    ((({ standard with required } : Plugin).map (.schedule s)).exec j = (.ok m, j') →
      ∃ t, m = .table t ∧ t.Expresses 1000000000 s ∧ IsFirstStates s.entries t.adminGateStates) ∧
    ((({ legacy with required } : Plugin).map (.schedule s)).exec j = (.ok m, j') →
      ∃ t, m = .table t ∧ t.Expresses 1000 s ∧ ∃ n, IsUnionStates s.entries t.adminGateStates n) := by
  constructor
  · intro h
    obtain ⟨t, rfl, ht⟩ := map_eq_ok (d := .standard) rfl (by decide) h
    obtain ⟨hexact, hstates⟩ := ofSchedule_expresses (by decide) ht
    refine ⟨t, rfl, hexact, ?_⟩
    rw [hstates]
    exact firstStates?_isFirst s.entries
  · intro h
    obtain ⟨t, rfl, ht⟩ := map_eq_ok (d := .legacy) rfl (by decide) h
    obtain ⟨hexact, hstates⟩ := ofSchedule_expresses (by decide) ht
    refine ⟨t, rfl, hexact, unionStates s.entries, ?_⟩
    rw [hstates]
    exact unionStates_isUnion s.entries

/-- A schedule of one millisecond in two slots, the second of which opens two gates: both plugins map
it. -/
theorem mapped_table_exact_two_slots :
    let s : Schedule := ⟨"s", 1500000000, 1000000, .enabled,
      [⟨0, 400000, [], none, .null⟩, ⟨7, 600000, [5, 1], some .setAndHoldMac, .null⟩], none⟩
    let j : Journal Unit := ⟨[], [], ()⟩
    (∃ t j', (standard.map (.schedule s)).exec j = (.ok (.table t), j') ∧ t.Expresses 1000000000 s ∧
      IsFirstStates s.entries t.adminGateStates ∧ t.adminGateStates = some 5) ∧
    ∃ t j', (legacy.map (.schedule s)).exec j = (.ok (.table t), j') ∧ t.Expresses 1000 s ∧
      IsUnionStates s.entries t.adminGateStates 5 := by
  intro s j
  constructor
  · obtain ⟨t, ht, hexact, hfirst⟩ := (mapped_table_exact standard.required s j _ _).1 rfl
    cases ht
    exact ⟨_, _, rfl, hexact, hfirst, rfl⟩
  · obtain ⟨t, ht, hexact, n, hunion⟩ := (mapped_table_exact legacy.required s j _ _).2 rfl
    cases ht
    have hn : some (5 : Int) = some (n : Int) := hunion.eq
    obtain rfl : n = 5 := Int.ofNat.inj (Option.some.inj hn).symm
    exact ⟨_, _, rfl, hexact, hunion⟩

end Plugin

end GateRollout
