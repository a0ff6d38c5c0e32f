import GateRollout.Proofs.Journal
import GateRollout.Rollout.Executor
import Mathlib.Data.List.Basic
import Mathlib.Data.List.Nodup

/-!
# Interleavings of a run on several workers

The executor runs the jobs of a rollout one after the other.  On several workers they overlap: a job
takes a permit, looks whether the run was cancelled, and only then is its work called.  Permits are
taken, and the look is had, in the order of the jobs; work ends in any order, and the run may be
cancelled between any two steps.  `Pool.Step` is this as a relation, `Pool.Run` its runs from nothing
done.

The order of the looks carries everything: once one job finds the run cancelled, so does every later
one.  Hence the work that is called is that of the first jobs and of no others.
-/

namespace GateRollout.Executor

/-- How far a run on several workers has got. -/
structure Pool where
  /-- How many jobs have taken a permit. -/
  taken : Nat
  /-- How many of these have looked whether the run was cancelled. -/
  looked : Nat
  /-- The positions of the jobs whose work is under way. -/
  underway : List Nat
  /-- The results so far, by the position of the job. -/
  results : List (Option TargetResult)
  /-- Whether the run was cancelled. -/
  cancelled : Bool

namespace Pool

/-- One step of a run. -/
inductive Event where
  /-- The next job takes a permit. -/
  | take
  /-- The work of the job at a position is called. -/
  | call (i : Nat)
  /-- The job at a position finds the run cancelled and gives its permit back. -/
  | refuse (i : Nat)
  /-- The work of the job at a position returns, and its permit is given back. -/
  | done (i : Nat) (r : TargetResult)
  /-- The run is cancelled, by some work or from outside. -/
  | cancel

namespace Event

/-- The position whose work an event calls. -/
def call? : Event → Option Nat
  | call i => some i
  | _ => none

/-- Whether an event is a step of some job. -/
def isJobStep : Event → Bool
  | cancel => false
  | _ => true

end Event

/-- The positions whose work was called, in the order of the calls. -/
def calls (es : List Event) : List Nat := es.filterMap Event.call?

/-- A run of some jobs of which nothing is done. -/
def start (jobs : List Job) (cancelled : Bool) : Pool :=
  ⟨0, 0, [], List.replicate jobs.length none, cancelled⟩

/-- The permits that are not free: those of jobs that have not looked yet and of jobs at work. -/
def permits (p : Pool) : Nat := (p.taken - p.looked) + p.underway.length

variable (jobs : List Job) (workers : Nat)

/-- The steps of a run of some jobs on a number of workers. -/
inductive Step : Pool → Event → Pool → Prop where
  | take {p : Pool} (waiting : p.taken < jobs.length) (free : p.permits < workers) :
      Step p .take { p with taken := p.taken + 1 }
  | call {p : Pool} (holds : p.looked < p.taken) (clear : p.cancelled = false) :
      Step p (.call p.looked)
        { p with looked := p.looked + 1, underway := p.looked :: p.underway }
  | refuse {p : Pool} {job : Job} (holds : p.looked < p.taken) (set : p.cancelled = true)
      (here : jobs[p.looked]? = some job) :
      Step p (.refuse p.looked)
        { p with
          looked := p.looked + 1
          results := p.results.set p.looked (some (cancelledResult job)) }
  | done {p : Pool} {i : Nat} (r : TargetResult) (working : i ∈ p.underway) :
      Step p (.done i r)
        { p with underway := p.underway.erase i, results := p.results.set i (some r) }
  | cancel {p : Pool} : Step p .cancel { p with cancelled := true }

/-- The runs that begin with nothing done, the run being cancelled beforehand or not. -/
inductive Run (before : Bool) : List Event → Pool → Prop where
  | start : Run before [] (start jobs before)
  | step {es : List Event} {p q : Pool} {e : Event} :
      Run before es p → Step jobs workers p e q → Run before (es ++ [e]) q

/-- A run is at its end when no job has a step left. -/
def Ended (p : Pool) : Prop := ∀ e q, Step jobs workers p e q → e = .cancel

variable {jobs : List Job} {workers : Nat} {before : Bool} {es : List Event} {p : Pool}

@[simp] theorem calls_snoc (es : List Event) (e : Event) :
    calls (es ++ [e]) = calls es ++ e.call?.toList := by
  cases e <;> simp [calls, Event.call?]

/-! ## Permits -/

/-- How the counters of a run hang together. -/
structure Counts (jobs : List Job) (workers : Nat) (p : Pool) : Prop where
  looked_le : p.looked ≤ p.taken
  taken_le : p.taken ≤ jobs.length
  permits_le : p.permits ≤ workers
  length_eq : p.results.length = jobs.length

theorem Counts.step {e : Event} {q : Pool} (h : Counts jobs workers p)
    (hs : Step jobs workers p e q) : Counts jobs workers q := by
  obtain ⟨hl, ht, hp, hr⟩ := h
  cases hs with
  | take waiting free =>
    refine ⟨by simp only; omega, waiting, ?_, hr⟩
    simp only [permits] at *
    omega
  | call holds clear =>
    refine ⟨holds, ht, ?_, hr⟩
    simp only [permits, List.length_cons] at *
    omega
  | refuse holds set here =>
    refine ⟨holds, ht, ?_, by simpa using hr⟩
    simp only [permits] at *
    omega
  | done r working =>
    refine ⟨hl, ht, ?_, by simpa using hr⟩
    have := List.length_erase_of_mem working
    simp only [permits] at *
    omega
  | cancel => exact ⟨hl, ht, hp, hr⟩

theorem Counts.of_run (h : Run jobs workers before es p) : Counts jobs workers p := by
  induction h with
  | start => exact ⟨Nat.le_refl _, Nat.zero_le _, Nat.zero_le _, List.length_replicate⟩
  | step _ hs ih => exact ih.step hs

/-! ## Calls -/

/-- What a run says about the calls that were made: they are those of the first positions, and as long
as the run is not cancelled every job that looked was called. -/
structure Calls (before : Bool) (es : List Event) (p : Pool) : Prop where
  calls_eq : calls es = List.range (calls es).length
  length_le : (calls es).length ≤ p.looked
  length_eq : p.cancelled = false → (calls es).length = p.looked
  cancelled_iff : p.cancelled = true ↔ before = true ∨ Event.cancel ∈ es
  calls_before : before = true → calls es = []
  calls_after : ∀ fst snd, es = fst ++ .cancel :: snd → calls snd = []

/-- A call adds the next position, as the run is not cancelled. -/
theorem Calls.call (h : Calls before es p) (clear : p.cancelled = false) :
    Calls before (es ++ [.call p.looked])
      { p with looked := p.looked + 1, underway := p.looked :: p.underway } := by
  obtain ⟨heq, hle, hlen, hiff, hbefore, hafter⟩ := h
  have hn : before ≠ true ∧ .cancel ∉ es := by simpa [clear] using hiff
  have hc : calls (es ++ [.call p.looked]) = List.range (p.looked + 1) := by
    rw [calls_snoc, heq, hlen clear, List.range_succ]
    rfl
  refine ⟨by simp [hc], by simp [hc], by simp [hc], by simpa [clear] using hn, ?_, ?_⟩
  · exact fun hb => absurd hb hn.1
  · intro fst snd hes
    have hmem : Event.cancel ∈ es ++ [.call p.looked] := by simp [hes]
    exact absurd (by simpa using hmem) hn.2

/-- A step that calls nothing leaves the calls as they were. -/
theorem Calls.idle {e : Event} {q : Pool} (h : Calls before es p) (he : e.call? = none)
    (hl : p.looked ≤ q.looked) (hlen : q.cancelled = false → p.cancelled = false ∧ q.looked = p.looked)
    (hq : q.cancelled = true ↔ p.cancelled = true ∨ e = .cancel) : Calls before (es ++ [e]) q := by
  have hc : calls (es ++ [e]) = calls es := by simp [he]
  refine ⟨by rw [hc]; exact h.calls_eq, by rw [hc]; exact Nat.le_trans h.length_le hl, ?_, ?_, ?_, ?_⟩
  · intro hf
    obtain ⟨hf, hl⟩ := hlen hf
    rw [hc, hl, h.length_eq hf]
  · rw [hq, h.cancelled_iff, List.mem_append, List.mem_singleton, or_assoc, eq_comm (a := e)]
  · exact fun hb => hc.trans (h.calls_before hb)
  · intro fst snd hes
    rcases List.eq_nil_or_concat' snd with rfl | ⟨snd, e', rfl⟩
    · rfl
    · rw [← List.cons_append, ← List.append_assoc] at hes
      obtain ⟨hinit, hlast⟩ := List.append_inj' hes rfl
      obtain rfl : e = e' := by simpa using hlast
      rw [calls_snoc, h.calls_after fst snd hinit, he]
      rfl

theorem Calls.of_run (h : Run jobs workers before es p) : Calls before es p := by
  induction h with
  | start => exact ⟨rfl, Nat.le_refl _, fun _ => rfl, by simp [Pool.start], fun _ => rfl, by simp⟩
  | step hr hs ih =>
    cases hs with
    | take => exact ih.idle rfl (Nat.le_refl _) (fun h => ⟨h, rfl⟩) (by simp)
    | call holds clear => exact ih.call clear
    | refuse holds set here =>
      exact ih.idle rfl (Nat.le_succ _) (fun h => absurd set (by simpa using h)) (by simp)
    | done => exact ih.idle rfl (Nat.le_refl _) (fun h => ⟨h, rfl⟩) (by simp)
    | cancel => exact ih.idle rfl (Nat.le_refl _) (by simp) (by simp)

/-! ## Results -/

/-- What a run says about the results so far: work that has returned gave its job's result, work that
was called and has not returned is under way, and every job that looked and was not called is
reported as cancelled. -/
structure Results (jobs : List Job) (es : List Event) (p : Pool) : Prop where
  nodup : p.underway.Nodup
  mem_underway_iff : ∀ i, i ∈ p.underway ↔ i ∈ calls es ∧ ∀ r, Event.done i r ∉ es
  returned : ∀ i r, Event.done i r ∈ es → i ∈ calls es ∧ p.results[i]? = some (some r)
  refused : ∀ i job, (calls es).length ≤ i → i < p.looked → jobs[i]? = some job →
    p.results[i]? = some (some (cancelledResult job))

/-- A step that is neither a call nor the return of one, nor a refusal, changes no result. -/
theorem Results.idle {e : Event} {q : Pool} (h : Results jobs es p) (he : e.call? = none)
    (hd : ∀ i r, Event.done i r ≠ e) (hu : q.underway = p.underway) (hr : q.results = p.results)
    (hl : q.looked = p.looked) : Results jobs (es ++ [e]) q := by
  obtain ⟨hn, hm, hret, href⟩ := h
  have hmem : ∀ i r, Event.done i r ∈ es ++ [e] ↔ Event.done i r ∈ es := by simp [hd]
  constructor <;> simpa only [calls_snoc, he, hmem, hu, hr, hl, Option.toList_none, List.append_nil]

/-- The work that is called is under way from then on. -/
theorem Results.call (h : Results jobs es p) (hc : Calls before es p) (clear : p.cancelled = false) :
    Results jobs (es ++ [.call p.looked])
      { p with looked := p.looked + 1, underway := p.looked :: p.underway } := by
  obtain ⟨hn, hm, hret, -⟩ := h
  have hlt : ∀ i ∈ calls es, i < p.looked := fun i hi => by
    rw [hc.calls_eq, List.mem_range] at hi
    exact Nat.lt_of_lt_of_le hi hc.length_le
  have hmem : ∀ i r, Event.done i r ∈ es ++ [.call p.looked] ↔ Event.done i r ∈ es := by simp
  have hcalls : calls (es ++ [.call p.looked]) = calls es ++ [p.looked] := calls_snoc _ _
  refine ⟨List.nodup_cons.2 ⟨?_, hn⟩, fun i => ?_, fun i r hi => ?_, fun i job hle hlt' => ?_⟩
  · exact fun hu => Nat.lt_irrefl _ (hlt _ ((hm _).1 hu).1)
  · simp only [hcalls, hmem, List.mem_cons, List.mem_append, List.not_mem_nil, or_false, hm]
    constructor
    · rintro (rfl | hi)
      · exact ⟨.inr rfl, fun r hr => Nat.lt_irrefl _ (hlt _ (hret _ r hr).1)⟩
      · exact ⟨.inl hi.1, hi.2⟩
    · rintro ⟨hi | hi, hr⟩
      · exact .inr ⟨hi, hr⟩
      · exact .inl hi
  · obtain ⟨hi, hr⟩ := hret i r ((hmem i r).1 hi)
    exact ⟨by rw [hcalls]; exact List.mem_append_left _ hi, hr⟩
  · rw [hcalls, List.length_append, hc.length_eq clear, List.length_singleton] at hle
    exact absurd (Nat.lt_of_lt_of_le hlt' hle) (Nat.lt_irrefl _)

/-- A refused job is reported as cancelled; no other result changes. -/
theorem Results.refuse {job : Job} (h : Results jobs es p) (hc : Calls before es p)
    (hn : p.results.length = jobs.length) (here : jobs[p.looked]? = some job) :
    Results jobs (es ++ [.refuse p.looked])
      { p with
        looked := p.looked + 1
        results := p.results.set p.looked (some (cancelledResult job)) } := by
  obtain ⟨hnodup, hm, hret, href⟩ := h
  have hmem : ∀ i r, Event.done i r ∈ es ++ [.refuse p.looked] ↔ Event.done i r ∈ es := by simp
  have hcalls : calls (es ++ [.refuse p.looked]) = calls es := by simp [Event.call?]
  refine ⟨hnodup, by simpa only [hcalls, hmem] using hm, fun i r hi => ?_, fun i job' hle hlt hj => ?_⟩
  · obtain ⟨hi, hr⟩ := hret i r ((hmem i r).1 hi)
    have hlt : i < p.looked := by
      rw [hc.calls_eq, List.mem_range] at hi
      exact Nat.lt_of_lt_of_le hi hc.length_le
    exact ⟨hcalls ▸ hi, by rw [List.getElem?_set_ne (Nat.ne_of_gt hlt)]; exact hr⟩
  · rw [hcalls] at hle
    rcases Nat.eq_or_lt_of_le (Nat.le_of_lt_succ hlt) with rfl | hlt
    · obtain rfl : job = job' := Option.some.inj (here.symm.trans hj)
      exact List.getElem?_set_self (hn ▸ (List.getElem?_eq_some_iff.1 here).1)
    · rw [List.getElem?_set_ne (Nat.ne_of_gt hlt)]
      exact href i job' hle hlt hj

/-- Work that returns gives the result of its job; no other result changes. -/
theorem Results.done {i : Nat} (r : TargetResult) (h : Results jobs es p) (hc : Calls before es p)
    (hn : p.looked ≤ p.results.length) (working : i ∈ p.underway) :
    Results jobs (es ++ [.done i r])
      { p with underway := p.underway.erase i, results := p.results.set i (some r) } := by
  obtain ⟨hnodup, hm, hret, href⟩ := h
  obtain ⟨hi, hopen⟩ := (hm i).1 working
  have hlt : i < (calls es).length := List.mem_range.1 (hc.calls_eq ▸ hi)
  have hmem : ∀ k s, Event.done k s ∈ es ++ [.done i r] ↔ Event.done k s ∈ es ∨ k = i ∧ s = r := by
    simp
  have hcalls : calls (es ++ [.done i r]) = calls es := by simp [Event.call?]
  refine ⟨hnodup.erase i, fun k => ?_, fun k s hk => ?_, fun k job hle hlt' hj => ?_⟩
  · simp only [hcalls, hmem, hnodup.mem_erase_iff, hm, not_or]
    constructor
    · exact fun ⟨hne, hk, hd⟩ => ⟨hk, fun s => ⟨hd s, fun hs => hne hs.1⟩⟩
    · exact fun ⟨hk, hd⟩ => ⟨fun he => (hd r).2 ⟨he, rfl⟩, hk, fun s => (hd s).1⟩
  · rw [hcalls]
    rcases (hmem k s).1 hk with hk | ⟨rfl, rfl⟩
    · have hne : i ≠ k := fun he => hopen s (he ▸ hk)
      exact ⟨(hret k s hk).1, by rw [List.getElem?_set_ne hne]; exact (hret k s hk).2⟩
    · have hlen : k < p.results.length :=
        Nat.lt_of_lt_of_le hlt (Nat.le_trans hc.length_le hn)
      exact ⟨hi, List.getElem?_set_self hlen⟩
  · rw [hcalls] at hle
    rw [List.getElem?_set_ne (Nat.ne_of_lt (Nat.lt_of_lt_of_le hlt hle))]
    exact href k job hle hlt' hj

theorem Results.of_run (h : Run jobs workers before es p) : Results jobs es p := by
  induction h with
  | start => exact ⟨List.nodup_nil, by simp [Pool.start, Pool.calls], by simp, by simp [Pool.start]⟩
  | step hr hs ih =>
    have hc := Calls.of_run hr
    have hn := Counts.of_run hr
    cases hs with
    | take => exact ih.idle rfl (by simp) rfl rfl rfl
    | call holds clear => exact ih.call hc clear
    | refuse holds set here => exact ih.refuse hc hn.length_eq here
    | done r working =>
      exact ih.done r hc (hn.length_eq ▸ Nat.le_trans hn.looked_le hn.taken_le) working
    | cancel => exact ih.idle rfl (by simp) rfl rfl rfl

end Pool

end GateRollout.Executor
