import GateRollout.Proofs.Mapping.Dialects
import GateRollout.Proofs.Schedule.Counting

/-!
# Schedules that are refused

The check of a schedule accepts exactly what the schema can express, and it tells of every entry that
is at fault.  A plugin of this library maps a schedule exactly when the check of its dialect accepts it,
and otherwise the error that it raises holds the message of every fault.
-/

namespace GateRollout

open Check

/-- Every one of some texts stands in what they are joined to. -/
theorem isInfix_intercalate {mark text : String} {texts : List String} (h : text ∈ texts) :
    text.toList <:+: (mark.intercalate texts).toList := by
  induction texts with
  | nil => cases h
  | cons t texts ih =>
    cases texts with
    | nil =>
      obtain rfl := List.mem_singleton.1 h
      rw [String.intercalate_singleton]
    | cons u texts =>
      rw [String.intercalate_cons_cons, String.toList_append, String.toList_append]
      rcases List.mem_cons.1 h with rfl | h
      · exact ((List.prefix_append _ _).trans (List.prefix_append _ _)).isInfix
      · exact (ih h).trans (List.suffix_append _ _).isInfix

namespace Check

theorem isRepresentable_iff {denominator : Int} {s : Schedule} :
    isRepresentable denominator s = true ↔ Representable denominator s := by
  rw [isRepresentable, List.isEmpty_iff, faults_eq_nil_iff]

/-- A cycle time is a whole number of parts of a second that 32 bits hold, in terms of division. -/
theorem exists_numerator_iff {denominator t : Int} :
    (∃ n, n * nanosPerSecond = t * denominator ∧ n ≤ max32) ↔
      1000000000 ∣ t * denominator ∧ t * denominator / 1000000000 ≤ 4294967295 := by
  rw [nanosPerSecond, max32]
  constructor
  · rintro ⟨n, hn, hmax⟩
    omega
  · rintro ⟨hdvd, hmax⟩
    exact ⟨_, Int.ediv_mul_cancel hdvd, hmax⟩

/-- A schedule is representable when its numbers fit and no two entries have the same index. -/
theorem representable_iff {denominator : Int} {s : Schedule} :
    Representable denominator s ↔
      (0 ≤ s.baseTime ∧ s.baseTime ≤ 18446744073709551615) ∧ 0 < s.cycleTime ∧
      (1000000000 ∣ s.cycleTime * denominator ∧ s.cycleTime * denominator / 1000000000 ≤ 4294967295) ∧
      (∀ e ∈ s.entries, (0 ≤ e.index ∧ e.index ≤ 4294967295) ∧ 0 ≤ e.interval ∧ e.interval ≤ 4294967295) ∧
      s.entries.Pairwise fun e f => e.index ≠ f.index := by
  rw [← exists_numerator_iff]
  constructor
  · intro h
    exact ⟨h.baseTime, h.cycleTime, h.numerator, fun e he => ⟨h.indices e he, h.intervals e he⟩,
      List.pairwise_map.1 h.nodup⟩
  · rintro ⟨hbase, hcycle, hnumerator, hentries, hnodup⟩
    exact ⟨hbase, hcycle, hnumerator, fun e he => (hentries e he).1, fun e he => (hentries e he).2,
      List.pairwise_map.2 hnodup⟩

end Check

namespace Plugin

variable {σ : Type}

/-- What a plugin makes of a schedule, as the check with some parts of a second has it: a table of one
that is accepted, and of one that is not an error of the mapping that holds the message of every fault.
Where a number that is to be told has too many digits, this is the failure. -/
inductive Decides (p : Plugin) (denominator : Int) (s : Schedule) : Except Failure Mapped → Prop
  | maps (t : GateTable) (h : isRepresentable denominator s = true) :
      Decides p denominator s (.ok (.table t))
  | refuses {e : RolloutError} (h : isRepresentable denominator s = false) (hkind : e.kind = .mapping)
      (hplugin : e.plugin = some p.name)
      (hmessage : ∀ f ∈ faults denominator s, f.message.toList <:+: e.message.toList) :
      Decides p denominator s (.error (.error e))
  | untold (h : isTold denominator s = false ∨ tellsOffset s = false) :
      Decides p denominator s (.error .unwritten)

theorem isInfix_notRepresentable (s : Schedule) {faults : List Check.Fault} {f : Check.Fault}
    (h : f ∈ faults) :
    f.message.toList <:+: (s!"Schedule {s.id} not representable: " ++
      "; ".intercalate (faults.map (·.message))).toList := by
  rw [String.toList_append]
  exact (isInfix_intercalate (List.mem_map_of_mem h)).trans (List.suffix_append _ _).isInfix

/-- A schedule with faults has no table. -/
theorem ofSchedule_eq_error {denominator : Int} {s : Schedule} (h : ¬Representable denominator s)
    (summary : Summary) : GateTable.ofSchedule denominator summary s = .error (faults denominator s) := by
  rw [GateTable.ofSchedule]
  split
  case h_1 hfaults _ => exact absurd (faults_eq_nil_iff.1 hfaults) h
  case h_2 => rfl

theorem decides_mapped {p : Plugin} (hp : p.dialect ≠ .bare) (s : Schedule) :
    p.Decides p.dialect.denominator s (p.mapped (.schedule s)) := by
  rw [mapped_schedule hp, mappedSchedule]
  cases htold : isTold p.dialect.denominator s with
  | false => exact .untold (.inl htold)
  | true =>
    change Decides _ _ _ (p.table s >>= _)
    rw [table]
    by_cases hr : Representable p.dialect.denominator s
    · obtain ⟨t, ht⟩ := ofSchedule_ok hr p.dialect.summary
      rw [ht]
      cases hoffset : tellsOffset s with
      | false => exact .untold (.inr hoffset)
      | true => exact .maps t (isRepresentable_iff.2 hr)
    · rw [ofSchedule_eq_error hr]
      exact .refuses (Bool.eq_false_iff.2 (mt isRepresentable_iff.1 hr)) rfl rfl
        fun f hf => isInfix_notRepresentable s hf

/-- The check accepts exactly the schedules whose numbers fit and whose indices are distinct.  As many
entries are at fault for their index as there are entries beyond the distinct indices that fit, and each
whose interval does not fit is told of once.  The plugins of this library, whatever modules they are made
to require, map what the check of their dialect accepts and refuse the rest with every fault. -/
theorem check_exact (denominator : Int) (s : Schedule) (j : Journal σ) :
    (isRepresentable denominator s = true ↔
      (0 ≤ s.baseTime ∧ s.baseTime ≤ 18446744073709551615) ∧ 0 < s.cycleTime ∧
      (1000000000 ∣ s.cycleTime * denominator ∧ s.cycleTime * denominator / 1000000000 ≤ 4294967295) ∧
      (∀ e ∈ s.entries, (0 ≤ e.index ∧ e.index ≤ 4294967295) ∧ 0 ≤ e.interval ∧ e.interval ≤ 4294967295) ∧
      s.entries.Pairwise fun e f => e.index ≠ f.index) ∧
    (faults denominator s).countP Check.Fault.isIndex + (fittingIndices s.entries).card = s.entries.length ∧
    (faults denominator s).filter Check.Fault.isInterval =
      ((s.entries.filter fun e => ¬Fits32 e.interval).map fun e => .interval e.interval e.index) ∧
    ∀ required,
      ({ standard with required } : Plugin).Decides 1000000000 s
        ((({ standard with required } : Plugin).map (.schedule s)).exec j).1 ∧
      ({ legacy with required } : Plugin).Decides 1000 s
        ((({ legacy with required } : Plugin).map (.schedule s)).exec j).1 := by
  refine ⟨isRepresentable_iff.trans representable_iff, countP_isIndex_faults denominator s,
    filter_isInterval_faults denominator s, fun required => ⟨?_, ?_⟩⟩
  · rw [(quiet_map _ (.schedule s) j).1]
    exact decides_mapped (show Dialect.standard ≠ .bare by decide) s
  · rw [(quiet_map _ (.schedule s) j).1]
    exact decides_mapped (show Dialect.legacy ≠ .bare by decide) s

end Plugin

end GateRollout
