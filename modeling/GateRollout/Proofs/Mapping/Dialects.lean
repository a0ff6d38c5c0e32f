import GateRollout.Proofs.Mapping.Table
import Mathlib.Data.Int.Bitwise

/-!
# One schedule in two dialects

Which schedules a plugin maps is told by the check of its dialect alone.  A schedule that both plugins
of this library map has the same table in either dialect, but for the units of the cycle time and for the
gate states that stand for all: the legacy dialect opens every gate that the standard one opens.
-/

namespace GateRollout

open Check

theorem Dialect.denominator_pos (d : Dialect) : 0 < d.denominator := by
  cases d <;> decide

theorem Dialect.isWritten_denominator (d : Dialect) : Text.isWritten d.denominator = true :=
  isWritten_of_fits (by cases d <;> decide)

namespace Plugin

variable {σ : Type} {p : Plugin} {d : Dialect} {s : Schedule} {t : GateTable}

/-- From a journal, a plugin maps a schedule to a table. -/
def Maps (p : Plugin) (j : Journal σ) (s : Schedule) (t : GateTable) : Prop :=
  ((p.map (.schedule s)).exec j).1 = .ok (.table t)

/-- From a journal, a plugin maps a schedule. -/
def Accepts (p : Plugin) (j : Journal σ) (s : Schedule) : Prop := ∃ t, p.Maps j s t

/-- The table of a schedule depends on the dialect of the plugin, and on nothing else. -/
theorem maps_iff (hp : p.dialect = d) (hd : d ≠ .bare) {j : Journal σ} :
    p.Maps j s t ↔ p.Tells s ∧ GateTable.ofSchedule d.denominator d.summary s = .ok t := by
  rw [Maps, (p.quiet_map (.schedule s) j).1, mapped_schedule (hp ▸ hd), mappedSchedule_eq_ok, table, hp]
  refine and_congr_right fun _ => ?_
  simp only [mapError_eq_ok, Mapped.table.injEq]
  exact exists_eq_right

/-- From some journal, a plugin maps some intent to a table. -/
def Produces (σ : Type) (p : Plugin) (t : GateTable) : Prop :=
  ∃ (m : Intent) (j : Journal σ), ((p.map m).exec j).1 = .ok (.table t)

/-- Only schedules are mapped to tables. -/
theorem Produces.ofSchedule (hp : p.dialect = d) (hd : d ≠ .bare) (h : p.Produces σ t) :
    ∃ s, GateTable.ofSchedule d.denominator d.summary s = .ok t := by
  obtain ⟨m, j, h⟩ := h
  cases m with
  | schedule s => exact ⟨s, ((maps_iff hp hd).1 h).2⟩
  | _ =>
    rw [(p.quiet_map _ j).1] at h
    rcases p with ⟨_ | _ | _, name, feature, required, generic⟩ <;> cases h

/-- What comes of a schedule says what the schedule says. -/
theorem Produces.expresses (hp : p.dialect = d) (hd : d ≠ .bare) (h : p.Produces σ t) :
    ∃ s, t.Expresses d.denominator s := by
  obtain ⟨s, hs⟩ := h.ofSchedule hp hd
  exact ⟨s, (ofSchedule_expresses d.denominator_pos hs).1⟩

/-- The numbers in what a plugin maps to are short enough to be written. -/
theorem Produces.isWritten (hp : p.dialect = d) (hd : d ≠ .bare) (h : p.Produces σ t) :
    t.isWritten = true := by
  obtain ⟨s, hs⟩ := h.ofSchedule hp hd
  exact isWritten_ofSchedule d.denominator_pos d.isWritten_denominator hs

end Plugin

/-! ## What is accepted -/

/-- A representable schedule has a table. -/
theorem ofSchedule_ok {denominator : Int} {s : Schedule} (h : Representable denominator s)
    (summary : Summary) : ∃ t, GateTable.ofSchedule denominator summary s = .ok t := by
  obtain ⟨n, hn, -⟩ := h.numerator
  exact ⟨_, by rw [GateTable.ofSchedule, faults_eq_nil_iff.2 h, numerator?_eq_some_iff.2 hn]⟩

theorem Plugin.accepts_iff {σ : Type} {p : Plugin} {d : Dialect} (hp : p.dialect = d) (hd : d ≠ .bare)
    {j : Journal σ} {s : Schedule} : p.Accepts j s ↔ p.Tells s ∧ Representable d.denominator s := by
  constructor
  · rintro ⟨t, ht⟩
    obtain ⟨htells, ht⟩ := (maps_iff hp hd).1 ht
    exact ⟨htells, (ofSchedule_eq_ok ht).1⟩
  · rintro ⟨htells, h⟩
    exact (ofSchedule_ok h d.summary).imp fun t ht => (maps_iff hp hd).2 ⟨htells, ht⟩

/-- Of a schedule that is representable there is nothing to tell that depends on the dialect. -/
theorem Check.isTold_of_representable {denominator : Int} {s : Schedule}
    (h : Representable denominator s) : isTold denominator s = (warnings s).all (·.isWritten) := by
  rw [isTold, faults_eq_nil_iff.2 h]
  rfl

/-- In milliseconds a cycle of whole milliseconds is a lesser number than in nanoseconds. -/
theorem Check.Representable.in_milliseconds {s : Schedule} (h : Representable 1000000000 s)
    (hmillis : s.cycleTime % 1000000 = 0) : Representable 1000 s := by
  obtain ⟨n, hn, hmax⟩ := h.numerator
  have hpos := h.cycleTime
  refine { h with numerator := ⟨s.cycleTime / 1000000, ?_, ?_⟩ } <;>
  · simp only [nanosPerSecond] at *
    omega

/-! ## Summaries -/

/-- The gates that the first gate states open are among those that any entry opens. -/
theorem testBit_unionStates_of_first {entries : List GateEntry} {v : Nat}
    (h : firstStates? entries = some v) {i : Nat} (hi : v.testBit i = true) :
    (unionStates entries).testBit i = true := by
  obtain ⟨e, he, hv⟩ := List.exists_of_findSome?_eq_some h
  rw [firstGateState?_eq] at hv
  cases hs : e.gateStates with
  | nil =>
    rw [hs] at hv
    cases hv
  | cons b rest =>
    rw [hs] at hv
    obtain rfl := Option.some.inj hv
    exact (testBit_unionStates entries i).2 ⟨e, he, b, rest, hs, hi⟩

/-! ## The main statement -/

/-- Two tables that say the same, though they may count the cycle time in other units, and though the
second may open more gates in what it says of all entries. -/
structure GateTable.SaysSame (t u : GateTable) : Prop where
  gateEnabled : t.gateEnabled = u.gateEnabled
  entries : t.entries = u.entries
  seconds : t.baseSeconds = u.baseSeconds
  nanoseconds : t.baseNanoseconds = u.baseNanoseconds
  cycleTime : ∃ n d m e : Int, t.cycleNumerator = .int n ∧ t.cycleDenominator = .int d ∧
    u.cycleNumerator = .int m ∧ u.cycleDenominator = .int e ∧ 0 < d ∧ 0 < e ∧ n * e = m * d
  gateStates : ∀ v, t.adminGateStates = some v → ∃ w, u.adminGateStates = some w ∧
    ∀ i, v.testBit i = true → w.testBit i = true

theorem saysSame_of_ofSchedule {s : Schedule} {t u : GateTable}
    (ht : GateTable.ofSchedule nanosPerSecond .first s = .ok t)
    (hu : GateTable.ofSchedule 1000 .union s = .ok u) : t.SaysSame u := by
  obtain ⟨-, n, hn, rfl⟩ := ofSchedule_eq_ok ht
  obtain ⟨-, m, hm, rfl⟩ := ofSchedule_eq_ok hu
  refine ⟨rfl, rfl, rfl, rfl, ⟨n, _, m, _, rfl, rfl, rfl, rfl, by decide, by decide, ?_⟩, ?_⟩
  · rw [numerator?_eq_some_iff] at hn hm
    simp only [nanosPerSecond] at *
    omega
  · intro v hv
    obtain ⟨first, hfirst, rfl⟩ := Option.map_eq_some_iff.1 hv
    exact ⟨_, rfl, fun i hi => testBit_unionStates_of_first hfirst hi⟩

namespace Plugin

variable {σ : Type}

/-- Whatever modules the two plugins are made to require: a schedule that the standard one maps is mapped
by the legacy one when its cycle is of whole milliseconds, and the tables of a schedule that both map say
the same. -/
theorem dialects_say_same (required required' : List SchemaModule) (s : Schedule) (j i : Journal σ) :
    let p : Plugin := { standard with required }
    let q : Plugin := { legacy with required := required' }
    (p.Accepts j s → s.cycleTime % 1000000 = 0 → q.Accepts i s) ∧
    ∀ t u, p.Maps j s t → q.Maps i s u → t.SaysSame u := by
  intro p q
  constructor
  · intro h hmillis
    obtain ⟨⟨htold, hoffset⟩, h⟩ := (accepts_iff (d := .standard) rfl (by decide)).1 h
    have hlegacy : Representable 1000 s := h.in_milliseconds hmillis
    have htold' : isTold 1000 s = true :=
      (isTold_of_representable hlegacy).trans ((isTold_of_representable h).symm.trans htold)
    exact (accepts_iff (d := .legacy) rfl (by decide)).2 ⟨⟨htold', hoffset⟩, hlegacy⟩
  · intro t u ht hu
    exact saysSame_of_ofSchedule ((maps_iff (d := .standard) rfl (by decide)).1 ht).2
      ((maps_iff (d := .legacy) rfl (by decide)).1 hu).2

/-- A cycle of two milliseconds whose first entry opens no gate, whose second opens the first gate, and
whose third opens the first and the second. -/
theorem dialects_say_same_three_slots :
    let s : Schedule := ⟨"s", 1500000000, 2000000, .enabled,
      [⟨2, 0, [], none, .null⟩, ⟨0, 1000000, [1], none, .null⟩,
        ⟨1, 1000000, [3, 7], some .setAndHoldMac, .null⟩],
      none⟩
    let j : Journal Unit := ⟨[], [], ()⟩
    standard.Accepts j s ∧ s.cycleTime % 1000000 = 0 ∧ legacy.Accepts j s ∧
    ∃ t u, standard.Maps j s t ∧ legacy.Maps j s u ∧ t.SaysSame u ∧ t.adminGateStates = some 1 ∧
      u.adminGateStates = some 3 := by
  intro s j
  have h := dialects_say_same standard.required legacy.required s j j
  have hstandard : standard.Accepts j s := ⟨_, rfl⟩
  refine ⟨hstandard, rfl, h.1 hstandard rfl, _, _, rfl, rfl, h.2 _ _ rfl rfl, rfl, rfl⟩

end Plugin

end GateRollout
