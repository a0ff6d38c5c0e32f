import GateRollout.Proofs.Rollout.Interleaving
import GateRollout.Proofs.Value.Written

/-!
# Cancelling a run

Cancelling cuts the list of jobs at one point: the work of every job before it is called once and gives
that job's result, and every job after it is reported as cancelled.  This holds of every interleaving,
of which the run of `Executor.run` is one.
-/

namespace GateRollout.Executor

namespace Pool

variable {jobs : List Job} {workers : Nat} {before : Bool} {es : List Event} {p : Pool}

/-! ## The end of a run -/

/-- As long as there is a worker, some job has a step left until all have looked and all work has
returned. -/
theorem exists_step (hc : Counts jobs workers p) (hw : 1 ≤ workers)
    (h : ¬(p.looked = jobs.length ∧ p.underway = [])) :
    ∃ e q, e ≠ .cancel ∧ Step jobs workers p e q := by
  cases hu : p.underway with
  | cons i rest =>
    have working : i ∈ p.underway := hu ▸ List.mem_cons_self
    exact ⟨_, _, by simp, .done { nodeId := .null, interface := "", status := .failed } working⟩
  | nil =>
    by_cases holds : p.looked < p.taken
    · cases hs : p.cancelled with
      | false => exact ⟨_, _, by simp, .call holds hs⟩
      | true =>
        have hlt : p.looked < jobs.length := Nat.lt_of_lt_of_le holds hc.taken_le
        exact ⟨_, _, by simp, .refuse holds hs (List.getElem?_eq_getElem hlt)⟩
    · have hl := hc.looked_le
      have ht := hc.taken_le
      have hne : p.looked ≠ jobs.length := fun he => h ⟨he, hu⟩
      have free : p.permits < workers := by
        simp only [permits, hu, List.length_nil]
        omega
      exact ⟨_, _, by simp, .take (by omega) free⟩

theorem Ended.complete (h : p.Ended jobs workers) (hc : Counts jobs workers p) (hw : 1 ≤ workers) :
    p.looked = jobs.length ∧ p.underway = [] := by
  by_contra hn
  obtain ⟨e, q, hne, hs⟩ := exists_step hc hw hn
  exact hne (h e q hs)

/-- Every job takes a permit once, looks once, and its work returns at most once. -/
theorem Run.steps_eq (h : Run jobs workers before es p) :
    es.countP Event.isJobStep + p.underway.length = p.taken + p.looked + (calls es).length := by
  induction h with
  | start => rfl
  | step hr hs ih =>
    cases hs with
    | take => simp [Event.isJobStep, Event.call?] at *; omega
    | call => simp [Event.isJobStep, Event.call?] at *; omega
    | refuse => simp [Event.isJobStep, Event.call?] at *; omega
    | done r working =>
      have := List.length_erase_of_mem working
      have := List.length_pos_of_mem working
      simp [Event.isJobStep, Event.call?] at *
      omega
    | cancel => simp [Event.isJobStep, Event.call?] at *; omega

theorem Run.steps_le (h : Run jobs workers before es p) :
    es.countP Event.isJobStep ≤ 3 * jobs.length := by
  have := h.steps_eq
  have := (Calls.of_run h).length_le
  have := (Counts.of_run h).looked_le
  have := (Counts.of_run h).taken_le
  omega

/-! ## One cut -/

/-- The jobs of a run are cut at `k`: the work of the first `k` was called once and in order and gave
their results, and the jobs from there on are reported as cancelled. -/
structure CutAt (jobs : List Job) (es : List Event) (results : List (Option TargetResult)) (k : Nat) :
    Prop where
  le_length : k ≤ jobs.length
  calls_eq : calls es = List.range k
  returned : ∀ i < k, ∃ r, Event.done i r ∈ es ∧ results[i]? = some (some r)
  unique : ∀ i r, Event.done i r ∈ es → i < k ∧ results[i]? = some (some r)
  refused : ∀ i job, k ≤ i → jobs[i]? = some job → ∃ r, results[i]? = some (some r) ∧
    r.nodeId = job.nodeId ∧ r.interface = job.target.interface ∧ r.status = .cancelled ∧
    r.error = some "orchestration cancelled"

/-- At its end a run is cut after the last job that was called. -/
theorem Ended.cutAt (h : p.Ended jobs workers) (hr : Run jobs workers before es p)
    (hw : 1 ≤ workers) : CutAt jobs es p.results (calls es).length := by
  obtain ⟨hlooked, hidle⟩ := h.complete (Counts.of_run hr) hw
  have hc := Calls.of_run hr
  obtain ⟨-, hopen, hret, href⟩ := Results.of_run hr
  refine ⟨hlooked ▸ hc.length_le, hc.calls_eq, fun i hi => ?_, fun i r hi => ?_, fun i job hle hj => ?_⟩
  · have hmem : i ∈ calls es := hc.calls_eq ▸ List.mem_range.2 hi
    have hdone : ¬∀ r, Event.done i r ∉ es := fun hd => by
      simpa [hidle] using (hopen i).2 ⟨hmem, hd⟩
    obtain ⟨r, hd⟩ := not_forall_not.1 hdone
    exact ⟨r, hd, (hret i r hd).2⟩
  · obtain ⟨hmem, hres⟩ := hret i r hi
    exact ⟨List.mem_range.1 (hc.calls_eq ▸ hmem), hres⟩
  · have hlt : i < p.looked := hlooked ▸ (List.getElem?_eq_some_iff.1 hj).1
    exact ⟨_, href i job hle hlt hj, rfl, rfl, rfl, rfl⟩

/-- A run that is not cancelled calls all work. -/
theorem Ended.calls_length (h : p.Ended jobs workers) (hr : Run jobs workers before es p)
    (hw : 1 ≤ workers) (hb : before = false) (hn : .cancel ∉ es) :
    (calls es).length = jobs.length := by
  have hc := Calls.of_run hr
  have hclear : p.cancelled ≠ true := fun hs => by simpa [hb, hn] using hc.cancelled_iff.1 hs
  rw [hc.length_eq (by simpa using hclear), (h.complete (Counts.of_run hr) hw).1]

/-- The work called by a run is what was called when the run was cancelled. -/
theorem Calls.before_cancel (h : Calls before es p) {fst snd : List Event}
    (hes : es = fst ++ .cancel :: snd) : calls fst = List.range (calls es).length := by
  have hsnd := h.calls_after fst snd hes
  have hfst : calls es = calls fst := by
    simp only [calls] at hsnd ⊢
    rw [hes, List.filterMap_append, List.filterMap_cons_none rfl, hsnd, List.append_nil]
  rw [← hfst]
  exact h.calls_eq

/-! ## One job after the other -/

/-- A run that rests between two jobs: as many jobs as there are results have taken their permit and
are through. -/
def resting (jobs : List Job) (rs : List TargetResult) (cancelled : Bool) : Pool :=
  ⟨rs.length, rs.length, [], rs.map some ++ List.replicate (jobs.length - rs.length) none, cancelled⟩

/-- Storing the next result is the next resting place. -/
theorem set_resting {rs : List TargetResult} (hlt : rs.length < jobs.length) (r : TargetResult) :
    (rs.map some ++ List.replicate (jobs.length - rs.length) none).set rs.length (some r) =
      (rs ++ [r]).map some ++ List.replicate (jobs.length - (rs ++ [r]).length) none := by
  obtain ⟨n, hn⟩ : ∃ n, jobs.length - rs.length = n + 1 := ⟨jobs.length - rs.length - 1, by omega⟩
  have hn' : jobs.length - (rs ++ [r]).length = n := by
    rw [List.length_append, List.length_singleton]
    omega
  rw [hn, hn', List.set_append_right _ _ (by simp)]
  simp [List.replicate_succ]

theorem Run.take_resting {rs : List TargetResult} {c : Bool}
    (h : Run jobs workers before es (resting jobs rs c)) (hw : 1 ≤ workers)
    (hlt : rs.length < jobs.length) :
    Run jobs workers before (es ++ [.take]) { resting jobs rs c with taken := rs.length + 1 } :=
  h.step (.take hlt (by simpa [permits, resting] using Nat.lt_of_succ_le hw))

/-- A cancelled run refuses its next job. -/
theorem Run.refuse_resting {rs : List TargetResult} {job : Job}
    (h : Run jobs workers before es (resting jobs rs true)) (hw : 1 ≤ workers)
    (hj : jobs[rs.length]? = some job) :
    Run jobs workers before (es ++ [.take, .refuse rs.length])
      (resting jobs (rs ++ [cancelledResult job]) true) := by
  have hlt : rs.length < jobs.length := (List.getElem?_eq_some_iff.1 hj).1
  have hnext := (h.take_resting hw hlt).step (.refuse (Nat.lt_succ_self _) rfl hj)
  simpa [resting, set_resting hlt] using hnext

/-- The steps of a job that is not refused, where the run is cancelled meanwhile or not. -/
def worked (i : Nat) (r : TargetResult) (cancelled : Bool) : List Event :=
  [.take, .call i] ++ (if cancelled then [.cancel] else []) ++ [.done i r]

/-- A run that is not cancelled does the work of its next job, and may be cancelled meanwhile. -/
theorem Run.work_resting {rs : List TargetResult}
    (h : Run jobs workers before es (resting jobs rs false)) (hw : 1 ≤ workers)
    (hlt : rs.length < jobs.length) (r : TargetResult) (c : Bool) :
    Run jobs workers before (es ++ worked rs.length r c) (resting jobs (rs ++ [r]) c) := by
  have hcall := (h.take_resting hw hlt).step (.call (Nat.lt_succ_self _) rfl)
  cases c with
  | false =>
    have hdone := hcall.step (.done r List.mem_cons_self)
    simpa [resting, set_resting hlt, worked] using hdone
  | true =>
    have hdone := (hcall.step .cancel).step (.done r List.mem_cons_self)
    simpa [resting, set_resting hlt, worked] using hdone

theorem ended_resting {rs : List TargetResult} {c : Bool} (h : rs.length = jobs.length) :
    (resting jobs rs c).Ended jobs workers := by
  intro e q hs
  cases hs with
  | take waiting free => exact absurd waiting (by simp [resting, h])
  | call holds clear => exact absurd holds (Nat.lt_irrefl _)
  | refuse holds set here => exact absurd holds (Nat.lt_irrefl _)
  | done r working => exact absurd working List.not_mem_nil
  | cancel => rfl

end Pool

variable {σ : Type} {jobs : List Job} {workers : Nat} {before : Bool}

/-- An action that tells a flag of the state, which it leaves as it is. -/
def Reads (flag : σ → Bool) (x : Action σ Bool) : Prop :=
  ∀ j, ∃ j', x.exec j = (.ok (flag j.world), j') ∧ j'.world = j.world

/-- Work that gives a result for each of some jobs and never takes back that the run was cancelled. -/
def Works (flag : σ → Bool) (work : Job → Action σ TargetResult) (jobs : List Job) : Prop :=
  ∀ job ∈ jobs, ∀ j, ∃ r j', (work job).exec j = (.ok r, j') ∧ (flag j.world = true → flag j'.world = true)

theorem exec_runOne_of_set {cancelled : Action σ Bool} {j j₁ : Journal σ}
    (hread : cancelled.exec j = (.ok true, j₁)) {job : Job} (hname : job.target.deviceName.hasText = true)
    (work : Job → Action σ TargetResult) :
    ∃ k, (runOne cancelled work job).exec j = (.ok (cancelledResult job), k) ∧ k.world = j₁.world := by
  rw [runOne, Action.exec_bind_ok hread, if_pos rfl, Target.words_of_hasText hname]
  exact ⟨_, rfl, rfl⟩

theorem exec_runOne_of_clear {cancelled : Action σ Bool} {j j₁ : Journal σ}
    (hread : cancelled.exec j = (.ok false, j₁)) (work : Job → Action σ TargetResult) (job : Job) :
    (runOne cancelled work job).exec j = (work job).exec j₁ := by
  rw [runOne, Action.exec_bind_ok hread, if_neg Bool.false_ne_true]

/-- The steps of some jobs one after the other, from a position on and from one journal to another.  A job is
refused where the flag is set.  Else its work is done, and the run is cancelled where the work has set the
flag. -/
inductive Serial (flag : σ → Bool) (work : Job → Action σ TargetResult) :
    List Job → Nat → Journal σ → List Pool.Event → Journal σ → Prop where
  | nil {i : Nat} {j : Journal σ} : Serial flag work [] i j [] j
  | refused {job : Job} {rest : List Job} {i : Nat} {j k j' : Journal σ} {es : List Pool.Event}
      (set : flag j.world = true) (same : k.world = j.world) (tail : Serial flag work rest (i + 1) k es j') :
      Serial flag work (job :: rest) i j ([.take, .refuse i] ++ es) j'
  | worked {job : Job} {rest : List Job} {i : Nat} {j k k' j' : Journal σ} {r : TargetResult}
      {es : List Pool.Event} (clear : flag j.world = false) (same : k.world = j.world)
      (returns : (work job).exec k = (.ok r, k')) (tail : Serial flag work rest (i + 1) k' es j') :
      Serial flag work (job :: rest) i j (Pool.worked i r (flag k'.world) ++ es) j'

/-- Running the jobs that are left takes a run from its resting place to its end. -/
theorem runAll_resting {flag : σ → Bool} {cancelled : Action σ Bool}
    {work : Job → Action σ TargetResult} (hc : Reads flag cancelled) (hw : 1 ≤ workers) (rest : List Job)
    (hk : Works flag work rest) (hname : ∀ job ∈ rest, job.target.deviceName.hasText = true)
    {es : List Pool.Event} {rs : List TargetResult} (j : Journal σ)
    (h : Pool.Run jobs workers before es (.resting jobs rs (flag j.world)))
    (hrest : jobs.drop rs.length = rest) (hle : rs.length ≤ jobs.length) :
    ∃ rs' j' es', (runAll cancelled work rest).exec j = (.ok rs', j') ∧
      (rs ++ rs').length = jobs.length ∧ Serial flag work rest rs.length j es' j' ∧
      Pool.Run jobs workers before (es ++ es') (.resting jobs (rs ++ rs') (flag j'.world)) := by
  induction rest generalizing rs es j with
  | nil =>
    refine ⟨[], j, [], rfl, ?_, .nil, by simpa using h⟩
    have := List.drop_eq_nil_iff.1 hrest
    simp only [List.append_nil]
    omega
  | cons job rest ih =>
    rw [List.forall_mem_cons] at hname
    rw [Works, List.forall_mem_cons] at hk
    have hj : jobs[rs.length]? = some job := by
      rw [← List.head?_drop, hrest, List.head?_cons]
    have hlt : rs.length < jobs.length := (List.getElem?_eq_some_iff.1 hj).1
    have hnext : ∀ r, jobs.drop (rs ++ [r]).length = rest := fun r => by
      rw [List.length_append, List.length_singleton, ← List.tail_drop, hrest, List.tail_cons]
    -- what is left to run once this job has had its turn
    have hlater : ∀ r k events, (runOne cancelled work job).exec j = (.ok r, k) →
        Pool.Run jobs workers before (es ++ events) (.resting jobs (rs ++ [r]) (flag k.world)) →
        (∀ es' j', Serial flag work rest (rs.length + 1) k es' j' →
          Serial flag work (job :: rest) rs.length j (events ++ es') j') →
        ∃ rs' j' es', (runAll cancelled work (job :: rest)).exec j = (.ok rs', j') ∧
          (rs ++ rs').length = jobs.length ∧ Serial flag work (job :: rest) rs.length j es' j' ∧
          Pool.Run jobs workers before (es ++ es') (.resting jobs (rs ++ rs') (flag j'.world)) := by
      intro r k events hone hrun hserial
      obtain ⟨rs', j', es', hall, hlen, htail, hend⟩ :=
        ih hk.2 hname.2 k hrun (hnext r) (by simpa using Nat.succ_le_of_lt hlt)
      refine ⟨r :: rs', j', events ++ es', ?_, by simpa using hlen, hserial es' j' (by simpa using htail),
        by simpa using hend⟩
      rw [runAll, Action.exec_bind_ok hone, Action.exec_bind_ok hall, Action.exec_pure]
    obtain ⟨j₁, hread, hworld⟩ := hc j
    cases hf : flag j.world with
    | true =>
      rw [hf] at h hread
      obtain ⟨k, hone, hsame⟩ := exec_runOne_of_set hread hname.1 work
      have hkf : flag k.world = true := by rw [hsame, hworld, hf]
      exact hlater _ k _ hone (hkf ▸ h.refuse_resting hw hj) fun es' j' htail =>
        .refused hf (hsame.trans hworld) htail
    | false =>
      rw [hf] at h hread
      obtain ⟨r, k, hres, -⟩ := hk.1 j₁
      exact hlater r k _ ((exec_runOne_of_clear hread work job).trans hres)
        (h.work_resting hw hlt r (flag k.world)) fun es' j' htail => .worked hf hworld hres htail

/-- One worker and more are let through. -/
theorem run_eq_runAll {workers : Int} (hw : 1 ≤ workers) (cancelled : Action σ Bool)
    (work : Job → Action σ TargetResult) (jobs : List Job) :
    run (.int workers) cancelled work jobs = runAll cancelled work jobs := by
  have hbelow : Settings.isBelowOne (.int workers) = .ok false := by
    simp only [Settings.isBelowOne, Value.fraction?, Except.ok.injEq, decide_eq_false_iff_not]
    omega
  rw [run, hbelow]
  rfl

/-- What `run` does is one of the runs on several workers: that of one job after the other. -/
theorem run_interleaves {flag : σ → Bool} {cancelled : Action σ Bool}
    {work : Job → Action σ TargetResult} (hc : Reads flag cancelled) (hw : 1 ≤ workers) {jobs : List Job}
    (hk : Works flag work jobs) (hname : ∀ job ∈ jobs, job.target.deviceName.hasText = true)
    (j : Journal σ) :
    ∃ rs j' es p, (run (.int workers) cancelled work jobs).exec j = (.ok rs, j') ∧
      Serial flag work jobs 0 j es j' ∧ Pool.Run jobs workers (flag j.world) es p ∧
      p.Ended jobs workers ∧ p.results = rs.map some := by
  have hstart : Pool.Run jobs workers (flag j.world) [] (.resting jobs [] (flag j.world)) := .start
  obtain ⟨rs, j', es, hall, hlen, hserial, hrun⟩ :=
    runAll_resting hc hw jobs hk hname j hstart rfl (Nat.zero_le _)
  simp only [List.nil_append] at hlen hrun
  refine ⟨rs, j', es, _, ?_, hserial, hrun, Pool.ended_resting hlen, by simp [Pool.resting, hlen]⟩
  rw [run_eq_runAll (by omega), hall]

/-! ## The main statement -/

open Pool in
/-- On at least one worker, no run ever has more work under way than workers, none goes on forever,
and at its end every job has its result and the jobs are cut at one point: all of them where the run
was never cancelled, none where it was cancelled beforehand, and else those that had been called when
it was cancelled.  What `run` does is such a run, of one job after the other, where the devices of the jobs
have names: each job's result is what its work returned, and the run is cancelled only by work that has set
the flag. -/
theorem cancellation_cuts_once (jobs : List Job) (workers : Nat) (hw : 1 ≤ workers) :
    (∀ before es p, Pool.Run jobs workers before es p →
      p.underway.length ≤ workers ∧
      (∀ i, i ∈ p.underway ↔ i ∈ calls es ∧ ∀ r, Event.done i r ∉ es) ∧
      es.countP Event.isJobStep ≤ 3 * jobs.length ∧
      (p.Ended jobs workers →
        p.results.length = jobs.length ∧
        ∃ k, CutAt jobs es p.results k ∧
          (before = true → k = 0) ∧
          (before = false → .cancel ∉ es → k = jobs.length) ∧
          ∀ fst snd, es = fst ++ .cancel :: snd → calls fst = List.range k)) ∧
    ∀ (σ : Type) (flag : σ → Bool) (cancelled : Action σ Bool) (work : Job → Action σ TargetResult),
      Reads flag cancelled → Works flag work jobs →
      (∀ job ∈ jobs, job.target.deviceName.hasText = true) → ∀ j, ∃ rs j' es p,
        (run (.int workers) cancelled work jobs).exec j = (.ok rs, j') ∧
        Serial flag work jobs 0 j es j' ∧ Pool.Run jobs workers (flag j.world) es p ∧
        p.Ended jobs workers ∧ p.results = rs.map some := by
  refine ⟨fun before es p hr => ?_,
    fun σ flag cancelled work hc hk hname j => run_interleaves hc hw hk hname j⟩
  have hn := Counts.of_run hr
  have hc := Calls.of_run hr
  have hpermits : p.underway.length ≤ p.permits := Nat.le_add_left _ _
  refine ⟨Nat.le_trans hpermits hn.permits_le, (Results.of_run hr).mem_underway_iff, hr.steps_le,
    fun hend => ⟨hn.length_eq, (calls es).length, hend.cutAt hr hw, ?_, ?_, ?_⟩⟩
  · exact fun hb => by rw [hc.calls_before hb, List.length_nil]
  · exact fun hb hx => hend.calls_length hr hw hb hx
  · exact fun fst snd hes => hc.before_cancel hes

/-- Two jobs on one worker, where the run is cancelled while the first job is at work: the first job
keeps its result, and the work of the second is never called. -/
theorem cancellation_during_first_of_two :
    let target : Target := ⟨{ address := .str "10.0.0.1" }, .str "", "eth0", .str "sw"⟩
    let job : Job := ⟨.str "sw", target, .empty "netconf", .ok ⟨[]⟩⟩
    let result : TargetResult := { nodeId := .str "sw", interface := "eth0", status := .success }
    let es : List Pool.Event := [.take, .call 0, .cancel, .done 0 result, .take, .refuse 1]
    let results := [some result, some (cancelledResult job)]
    Pool.Run [job, job] 1 false es ⟨2, 2, [], results, true⟩ ∧ Pool.CutAt [job, job] es results 1 := by
  intro target job result es results
  have hrun : Pool.Run [job, job] 1 false es ⟨2, 2, [], results, true⟩ :=
    ((((((Pool.Run.start).step (.take (by decide) (by decide))).step (.call (by decide) rfl)).step
      .cancel).step (.done result List.mem_cons_self)).step (.take (by decide) (by decide))).step
        (.refuse (by decide) rfl rfl)
  have hend : Pool.Ended [job, job] 1 (.resting _ [result, cancelledResult job] true) :=
    Pool.ended_resting rfl
  obtain ⟨-, -, -, hcut⟩ :=
    (cancellation_cuts_once [job, job] 1 (Nat.le_refl 1)).1 false es _ hrun
  obtain ⟨-, k, hk, -⟩ := hcut hend
  have hlen : (Pool.calls es).length = k := by rw [hk.calls_eq, List.length_range]
  obtain rfl : 1 = k := hlen
  exact ⟨hrun, hk⟩

end GateRollout.Executor
