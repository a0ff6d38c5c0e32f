import GateRollout.Schedule.Check
import Mathlib.Data.List.Nodup

/-!
# What the check accepts

A schedule has no faults exactly when it is representable: its times fit the schema, its cycle time is a
whole number of parts of a second, and the indices of its entries are distinct.  The indices are checked
against those of the entries before, which is what the induction is about.
-/

namespace GateRollout.Check

/-- A number that 32 bits hold. -/
def Fits32 (n : Int) : Prop := 0 ≤ n ∧ n ≤ max32

/-- A schedule that the schema can express with cycle times in parts of a second. -/
structure Representable (denominator : Int) (s : Schedule) : Prop where
  baseTime : 0 ≤ s.baseTime ∧ s.baseTime ≤ max64
  cycleTime : 0 < s.cycleTime
  numerator : ∃ n, n * nanosPerSecond = s.cycleTime * denominator ∧ n ≤ max32
  indices : ∀ e ∈ s.entries, Fits32 e.index
  intervals : ∀ e ∈ s.entries, Fits32 e.interval
  nodup : (s.entries.map GateEntry.index).Nodup

theorem numerator?_eq_some_iff {denominator t n : Int} :
    numerator? denominator t = some n ↔ n * nanosPerSecond = t * denominator := by
  simp only [numerator?, nanosPerSecond, beq_iff_eq]
  split
  · rw [Option.some.injEq]
    omega
  · simp only [reduceCtorEq, false_iff]
    omega

theorem baseTimeFaults_eq_nil_iff {t : Int} : baseTimeFaults t = [] ↔ 0 ≤ t ∧ t ≤ max64 := by
  simp [baseTimeFaults]

theorem cycleTimeFaults_eq_nil_iff {denominator t : Int} :
    cycleTimeFaults denominator t = [] ↔
      0 < t ∧ ∃ n, n * nanosPerSecond = t * denominator ∧ n ≤ max32 := by
  simp only [← numerator?_eq_some_iff, cycleTimeFaults]
  split
  case isTrue h => simp [Int.not_lt.2 h]
  case isFalse h =>
    cases numerator? denominator t with
    | none => simp
    | some n => simp [Int.not_le.1 h]

theorem intervalFaults_eq_nil_iff {e : GateEntry} : intervalFaults e = [] ↔ Fits32 e.interval := by
  simp [intervalFaults, Fits32]

theorem indexFaults_eq_nil_iff {seen : List Int} {i : Int} :
    indexFaults seen i = [] ↔ Fits32 i ∧ i ∉ seen := by
  simp only [indexFaults, Fits32]
  split
  case isTrue h => simp [h]
  case isFalse h => simp [not_not.1 h]

/-- Entries have no faults when their numbers fit and no index stands twice among them and those seen. -/
theorem entryFaults_eq_nil_iff {seen : List Int} {entries : List GateEntry} :
    entryFaults seen entries = [] ↔
      (∀ e ∈ entries, Fits32 e.index) ∧ (∀ e ∈ entries, Fits32 e.interval) ∧
      (entries.map GateEntry.index).Nodup ∧ ∀ e ∈ entries, e.index ∉ seen := by
  induction entries generalizing seen with
  | nil => simp [entryFaults]
  | cons e rest ih =>
    simp only [entryFaults, List.append_eq_nil_iff, indexFaults_eq_nil_iff, intervalFaults_eq_nil_iff,
      ih, List.map_cons, List.nodup_cons, List.mem_cons, forall_eq_or_imp, not_or, List.mem_map,
      not_exists, not_and]
    constructor
    · rintro ⟨⟨⟨hi, hs⟩, ht⟩, his, hts, hn, hrest⟩
      exact ⟨⟨hi, his⟩, ⟨ht, hts⟩, ⟨fun x hx => (hrest x hx).1, hn⟩, hs, fun x hx => (hrest x hx).2⟩
    · rintro ⟨⟨hi, his⟩, ⟨ht, hts⟩, ⟨hne, hn⟩, hs, hrest⟩
      exact ⟨⟨⟨hi, hs⟩, ht⟩, his, hts, hn, fun x hx => ⟨hne x hx, hrest x hx⟩⟩

/-- A schedule has no faults exactly when it is representable. -/
theorem faults_eq_nil_iff {denominator : Int} {s : Schedule} :
    faults denominator s = [] ↔ Representable denominator s := by
  simp only [faults, List.append_eq_nil_iff, baseTimeFaults_eq_nil_iff, cycleTimeFaults_eq_nil_iff,
    entryFaults_eq_nil_iff]
  constructor
  · rintro ⟨⟨hb, hc, hn⟩, hi, ht, hd, -⟩
    exact ⟨hb, hc, hn, hi, ht, hd⟩
  · rintro ⟨hb, hc, hn, hi, ht, hd⟩
    exact ⟨⟨hb, hc, hn⟩, hi, ht, hd, by simp⟩

end GateRollout.Check
