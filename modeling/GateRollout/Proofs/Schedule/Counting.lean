import GateRollout.Proofs.Schedule.Check
import Mathlib.Data.Finset.Card

/-!
# How many faults a schedule has

Every index that fits is accepted at the first entry that has it, and the index of every other entry is a
fault: so the faults of indices and the distinct indices that fit are as many as the entries.  The
indices seen so far may hold some that do not fit, and what the induction counts are those that fit and
were not seen.  A fault of an interval stands for each entry whose interval does not fit.
-/

namespace GateRollout.Check

instance (n : Int) : Decidable (Fits32 n) := inferInstanceAs (Decidable (0 ≤ n ∧ n ≤ max32))

/-- Whether a fault is one of an index, which does not fit or was given before. -/
def Fault.isIndex : Fault → Bool
  | indexRange _ => true
  | indexTwice _ => true
  | _ => false

/-- Whether a fault is one of an interval. -/
def Fault.isInterval : Fault → Bool
  | interval _ _ => true
  | _ => false

/-- The distinct indices of entries, without those that do not fit. -/
def fittingIndices (entries : List GateEntry) : Finset Int :=
  (entries.map GateEntry.index).toFinset.filter Fits32

theorem fittingIndices_cons (e : GateEntry) (rest : List GateEntry) :
    fittingIndices (e :: rest) =
      if Fits32 e.index then insert e.index (fittingIndices rest) else fittingIndices rest := by
  rw [fittingIndices, List.map_cons, List.toFinset_cons, Finset.filter_insert]
  rfl

theorem fits_of_mem_fittingIndices {entries : List GateEntry} {i : Int} (h : i ∈ fittingIndices entries) :
    Fits32 i := (Finset.mem_filter.1 h).2

/-! ## Faults of the times -/

theorem cycleTimeFaults_cases (denominator t : Int) :
    cycleTimeFaults denominator t = [] ∨ cycleTimeFaults denominator t = [.cycleTimeSign t] ∨
      cycleTimeFaults denominator t = [.cycleTimeScale t denominator] ∨
      cycleTimeFaults denominator t = [.cycleTimeOverflow t denominator] := by
  rw [cycleTimeFaults]
  split
  · simp
  · split
    · simp
    · split <;> simp

/-- The faults of the times are none of an entry. -/
theorem not_entry_of_mem_times {denominator t u : Int} {f : Fault}
    (h : f ∈ baseTimeFaults t ++ cycleTimeFaults denominator u) :
    f.isIndex = false ∧ f.isInterval = false := by
  rcases List.mem_append.1 h with h | h
  · rw [baseTimeFaults] at h
    split at h
    · cases h
    · obtain rfl := List.mem_singleton.1 h
      exact ⟨rfl, rfl⟩
  · rcases cycleTimeFaults_cases denominator u with hu | hu | hu | hu <;> rw [hu] at h
    · cases h
    all_goals
      obtain rfl := List.mem_singleton.1 h
      exact ⟨rfl, rfl⟩

/-! ## Faults of indices -/

theorem countP_indexFaults (seen : List Int) (i : Int) :
    (indexFaults seen i).countP Fault.isIndex = if Fits32 i ∧ i ∉ seen then 0 else 1 := by
  have hnil : indexFaults seen i = [] ↔ Fits32 i ∧ i ∉ seen := indexFaults_eq_nil_iff
  rw [indexFaults] at hnil ⊢
  split
  case isTrue h =>
    rw [if_neg fun hfits => h hfits.1]
    rfl
  case isFalse h =>
    split
    case isTrue hseen =>
      rw [if_neg fun hfits => hfits.2 (List.contains_iff_mem.1 hseen)]
      rfl
    case isFalse hseen =>
      rw [if_neg h, if_neg hseen] at hnil
      rw [if_pos (hnil.1 rfl)]
      rfl

/-- One more among some that are wanted counts unless it is known. -/
theorem card_insert_sdiff (wanted known : Finset Int) (i : Int) :
    (insert i wanted \ known).card = (wanted \ insert i known).card + if i ∈ known then 0 else 1 := by
  by_cases hknown : i ∈ known
  · rw [if_pos hknown, Finset.insert_sdiff_of_mem _ hknown, Finset.insert_eq_of_mem hknown, Nat.add_zero]
  · have hsplit : insert i wanted \ known = insert i (wanted \ insert i known) := by
      ext k
      simp only [Finset.mem_sdiff, Finset.mem_insert, not_or]
      by_cases hk : k = i
      · simp [hk, hknown]
      · simp [hk]
    rw [if_neg hknown, hsplit, Finset.card_insert_of_notMem (by simp)]

theorem countP_intervalFaults (e : GateEntry) : (intervalFaults e).countP Fault.isIndex = 0 := by
  rw [intervalFaults]
  split <;> rfl

/-- Entries after some indices: every entry has a fault of its index or adds one that fits and was not
seen. -/
theorem countP_entryFaults (seen : List Int) (entries : List GateEntry) :
    (entryFaults seen entries).countP Fault.isIndex + (fittingIndices entries \ seen.toFinset).card =
      entries.length := by
  induction entries generalizing seen with
  | nil => simp [entryFaults, fittingIndices]
  | cons e rest ih =>
    have hrest := ih (e.index :: seen)
    rw [List.toFinset_cons] at hrest
    rw [entryFaults, List.countP_append, List.countP_append, countP_intervalFaults, countP_indexFaults,
      fittingIndices_cons, List.length_cons]
    by_cases hfits : Fits32 e.index
    · rw [if_pos hfits, card_insert_sdiff]
      by_cases hseen : e.index ∈ seen
      · rw [if_neg fun h => h.2 hseen, if_pos (List.mem_toFinset.2 hseen)]
        omega
      · rw [if_pos ⟨hfits, hseen⟩, if_neg (mt List.mem_toFinset.1 hseen)]
        omega
    · -- an index that does not fit is none of those that count, whether it was seen or not
      have hnot : e.index ∉ fittingIndices rest := fun h => hfits (fits_of_mem_fittingIndices h)
      rw [Finset.sdiff_insert_of_notMem hnot] at hrest
      rw [if_neg hfits, if_neg fun h => hfits h.1]
      omega

/-- The faults of indices are as many as the entries, less the distinct indices that fit. -/
theorem countP_isIndex_faults (denominator : Int) (s : Schedule) :
    (faults denominator s).countP Fault.isIndex + (fittingIndices s.entries).card = s.entries.length := by
  have htimes : (baseTimeFaults s.baseTime ++ cycleTimeFaults denominator s.cycleTime).countP
      Fault.isIndex = 0 := by
    rw [List.countP_eq_zero]
    exact fun f hf => by simp [(not_entry_of_mem_times hf).1]
  have hentries := countP_entryFaults [] s.entries
  rw [List.toFinset_nil, Finset.sdiff_empty] at hentries
  rw [faults, List.countP_append, htimes, Nat.zero_add, hentries]

/-- Of an index that is given twice and one that does not fit and is given twice, three entries are at
fault. -/
example :
    let entry (i : Int) : GateEntry := ⟨i, 250, [], none, .null⟩
    (faults nanosPerSecond ⟨"s", 0, 1000, .enabled, [entry 0, entry (-1), entry 0, entry (-1)], none⟩).countP
      Fault.isIndex = 3 := by decide

/-! ## Faults of intervals -/

theorem filter_isInterval_indexFaults (seen : List Int) (i : Int) :
    (indexFaults seen i).filter Fault.isInterval = [] := by
  rw [indexFaults]
  split
  · rfl
  · split <;> rfl

theorem filter_isInterval_intervalFaults (e : GateEntry) :
    (intervalFaults e).filter Fault.isInterval = intervalFaults e := by
  rw [intervalFaults]
  split <;> rfl

theorem filter_isInterval_entryFaults (seen : List Int) (entries : List GateEntry) :
    (entryFaults seen entries).filter Fault.isInterval =
      (entries.filter fun e => ¬Fits32 e.interval).map fun e => .interval e.interval e.index := by
  induction entries generalizing seen with
  | nil => rfl
  | cons e rest ih =>
    rw [entryFaults, List.filter_append, List.filter_append, filter_isInterval_indexFaults,
      filter_isInterval_intervalFaults, ih, List.filter_cons, intervalFaults]
    by_cases h : Fits32 e.interval
    · rw [if_pos (show 0 ≤ e.interval ∧ e.interval ≤ max32 from h)]
      simp [h]
    · rw [if_neg (show ¬(0 ≤ e.interval ∧ e.interval ≤ max32) from h)]
      simp [h]

/-- The faults of intervals are those of the entries whose interval does not fit, one for each and in the
order of the entries. -/
theorem filter_isInterval_faults (denominator : Int) (s : Schedule) :
    (faults denominator s).filter Fault.isInterval =
      (s.entries.filter fun e => ¬Fits32 e.interval).map fun e => .interval e.interval e.index := by
  have htimes : (baseTimeFaults s.baseTime ++ cycleTimeFaults denominator s.cycleTime).filter
      Fault.isInterval = [] := by
    rw [List.filter_eq_nil_iff]
    exact fun f hf => by simp [(not_entry_of_mem_times hf).2]
  rw [faults, List.filter_append, htimes, List.nil_append, filter_isInterval_entryFaults]

end GateRollout.Check
