import GateRollout.Proofs.Audit.Record
import GateRollout.Proofs.Rollout.Cancellation
import GateRollout.Proofs.Rollout.FanOut
import GateRollout.Proofs.Rollout.Told

/-!
# The report of a rollout

A rollout reports the results of its jobs and what they amount to.  The numbers add up, the status says
how much was configured, and every result says enough, wherever the rollout was cancelled and however
the jobs overlapped.
-/

namespace GateRollout

variable {σ : Type}

/-! ## Outcomes -/

namespace Outcome

/-- An outcome whose numbers and status are those of its results, each of which says enough. -/
structure IsTruthful (o : Outcome) : Prop where
  total : o.total = o.results.length
  sum : o.total = o.count .success + o.count .failed + o.count .cancelled
  failures : o.failures = o.results.filter (·.status != .success)
  applied_iff : o.status = .applied ↔ o.results ≠ [] ∧ ∀ r ∈ o.results, r.status = .success
  partiallyApplied_iff : o.status = .partiallyApplied ↔
    (∃ r ∈ o.results, r.status = .success) ∧ ∃ r ∈ o.results, r.status ≠ .success
  notApplied_iff : o.status = .notApplied ↔ ∀ r ∈ o.results, r.status ≠ .success
  told : ∀ r ∈ o.results, r.IsTold o.dryRun

/-- Every result has one of three statuses. -/
theorem length_eq_counts (results : List TargetResult) :
    results.length = results.countP (·.status == .success) + results.countP (·.status == .failed) +
      results.countP (·.status == .cancelled) := by
  induction results with
  | nil => rfl
  | cons r results ih =>
    simp only [List.length_cons, List.countP_cons, ih]
    cases r.status <;> simp <;> omega

theorem any_isSuccess_iff {results : List TargetResult} :
    results.any (·.isSuccess) = true ↔ ∃ r ∈ results, r.status = .success := by
  simp [TargetResult.isSuccess]

theorem all_isSuccess_iff {results : List TargetResult} :
    results.all (·.isSuccess) = true ↔ ∀ r ∈ results, r.status = .success := by
  simp [TargetResult.isSuccess]

/-- The status tells whether some result is a success, and whether all are. -/
theorem status_cases (results : List TargetResult) :
    (OutcomeStatus.ofResults results = .applied ∧ (∃ r ∈ results, r.status = .success) ∧
      ∀ r ∈ results, r.status = .success) ∨
    (OutcomeStatus.ofResults results = .partiallyApplied ∧ (∃ r ∈ results, r.status = .success) ∧
      ∃ r ∈ results, r.status ≠ .success) ∨
    (OutcomeStatus.ofResults results = .notApplied ∧ ∀ r ∈ results, r.status ≠ .success) := by
  rw [OutcomeStatus.ofResults]
  by_cases hany : results.any (·.isSuccess) = true
  · rw [if_pos hany]
    by_cases hall : results.all (·.isSuccess) = true
    · exact .inl ⟨if_pos hall, any_isSuccess_iff.1 hany, all_isSuccess_iff.1 hall⟩
    · rw [if_neg hall]
      rw [all_isSuccess_iff] at hall
      push Not at hall
      exact .inr (.inl ⟨rfl, any_isSuccess_iff.1 hany, hall⟩)
  · rw [if_neg hany]
    rw [any_isSuccess_iff] at hany
    push Not at hany
    exact .inr (.inr ⟨rfl, hany⟩)

theorem isTruthful_ofResults {results : List TargetResult} {dryRun : Bool}
    (h : ∀ r ∈ results, r.IsTold dryRun) (skipped : List Value) :
    (ofResults results skipped dryRun).IsTruthful where
  total := rfl
  sum := length_eq_counts results
  failures := rfl
  applied_iff := by
    rcases status_cases results with ⟨hs, ⟨r, hr, -⟩, hall⟩ | ⟨hs, -, r, hr, hn⟩ | ⟨hs, hn⟩
    · exact iff_of_true hs ⟨List.ne_nil_of_mem hr, hall⟩
    · exact iff_of_false (fun he => nomatch hs.symm.trans he) fun ⟨_, hall⟩ => hn (hall r hr)
    · refine iff_of_false (fun he => nomatch hs.symm.trans he) fun ⟨hne, hall⟩ => ?_
      obtain ⟨r, hr⟩ := List.exists_mem_of_ne_nil _ hne
      exact hn r hr (hall r hr)
  partiallyApplied_iff := by
    rcases status_cases results with ⟨hs, -, hall⟩ | ⟨hs, hsome, hother⟩ | ⟨hs, hn⟩
    · exact iff_of_false (fun he => nomatch hs.symm.trans he) fun ⟨_, r, hr, hne⟩ => hne (hall r hr)
    · exact iff_of_true hs ⟨hsome, hother⟩
    · exact iff_of_false (fun he => nomatch hs.symm.trans he) fun ⟨⟨r, hr, hsuccess⟩, _⟩ => hn r hr hsuccess
  notApplied_iff := by
    rcases status_cases results with ⟨hs, ⟨r, hr, hsuccess⟩, -⟩ | ⟨hs, ⟨r, hr, hsuccess⟩, -⟩ | ⟨hs, hn⟩
    · exact iff_of_false (fun he => nomatch hs.symm.trans he) fun hn => hn r hr hsuccess
    · exact iff_of_false (fun he => nomatch hs.symm.trans he) fun hn => hn r hr hsuccess
    · exact iff_of_true hs hn
  told := h

end Outcome

/-! ## Jobs -/

theorem Registry.mem_of_get {α : Type} {r : Registry α} {protocol : Value} {a : α}
    (h : r.get protocol = .ok (some a)) : ∃ entry ∈ r.byProtocol, entry.2 = a := by
  unfold get at h
  split at h
  · cases h
  · cases protocol with
    | str s =>
      obtain ⟨entry, hentry, rfl⟩ := Option.map_eq_some_iff.1 (Except.ok.inj h)
      exact ⟨entry, List.mem_of_find?_eq_some hentry, rfl⟩
    | _ => cases h

namespace Engine

/-- All backends of an engine hold variants alone. -/
def HoldsVariants (e : Engine σ) : Prop := ∀ entry ∈ e.registry.byProtocol, entry.2.HoldsVariants

/-- A job for a port of a device. -/
def IsFor (node : Node) (job : Job) : Prop :=
  job.nodeId = node.id ∧ ∃ secret port, job.target = targetOf node secret port

variable {e : Engine σ}

theorem jobsOf_ends (h : e.HoldsVariants) (node : Node) :
    (e.jobsOf node).Ends (fun own => ∀ jobs, own = some jobs →
      ∀ job ∈ jobs, job.backend.HoldsVariants ∧ IsFor node job) fun _ => True := by
  have hget : EndsIn (fun b => e.registry.get node.management.protocol = .ok b) (fun _ => True)
      (e.registry.get node.management.protocol) := by
    cases e.registry.get node.management.protocol with
    | ok b => rfl
    | error f => trivial
  refine (Action.ends_ofExcept hget).bind fun b hb => ?_
  cases b with
  | none =>
    exact (Action.ends_any _).bind fun _ _ => (Action.ends_any _).bind fun _ _ =>
      (Action.ends_log _ _).bind fun _ _ => Action.ends_pure nofun
  | some backend =>
    obtain ⟨entry, hentry, rfl⟩ := Registry.mem_of_get hb
    refine (Action.ends_any _).bind fun model _ => (Action.ends_any _).bind fun secret _ => ?_
    refine Action.ends_pure fun jobs hjobs job hjob => ?_
    obtain rfl := Option.some.inj hjobs
    obtain ⟨port, -, rfl⟩ := List.mem_map.1 hjob
    exact ⟨h entry hentry, rfl, _, _, rfl⟩

/-- The jobs of some devices are for ports of these devices and for backends of variants, and the devices
that are skipped have the names of these devices. -/
theorem buildJobs_ends (h : e.HoldsVariants) (nodes : List Node) :
    (e.buildJobs nodes).Ends (fun x =>
      (∀ job ∈ x.1, job.backend.HoldsVariants ∧ ∃ node ∈ nodes, IsFor node job) ∧
        ∀ id ∈ x.2, id ∈ nodes.map Node.id) fun _ => True := by
  induction nodes with
  | nil => exact Action.ends_pure ⟨nofun, nofun⟩
  | cons node nodes ih =>
    refine (jobsOf_ends h node).bind fun own hown => ?_
    have hlater : ∀ jobs : List Job,
        (∀ job ∈ jobs, job.backend.HoldsVariants ∧ ∃ node ∈ nodes, IsFor node job) →
        ∀ job ∈ jobs, job.backend.HoldsVariants ∧ ∃ n ∈ node :: nodes, IsFor n job := by
      intro jobs hjobs job hjob
      obtain ⟨hbackend, n, hn, hfor⟩ := hjobs job hjob
      exact ⟨hbackend, n, List.mem_cons_of_mem _ hn, hfor⟩
    cases own with
    | none =>
      refine ih.bind fun (jobs, skipped) ⟨hjobs, hskipped⟩ => Action.ends_pure ⟨hlater jobs hjobs, ?_⟩
      exact List.forall_mem_cons.2
        ⟨List.mem_cons_self, fun id hid => List.mem_cons_of_mem _ (hskipped id hid)⟩
    | some own =>
      refine ih.bind fun (jobs, skipped) ⟨hjobs, hskipped⟩ => Action.ends_pure ⟨?_, fun id hid => ?_⟩
      · refine List.forall_mem_append.2 ⟨fun job hjob => ?_, hlater jobs hjobs⟩
        obtain ⟨hbackend, hfor⟩ := hown own rfl job hjob
        exact ⟨hbackend, node, List.mem_cons_self, hfor⟩
      · exact List.mem_cons_of_mem _ (hskipped id hid)

/-! ## Runs -/

/-- What holds of the result of every job and of the report of a job that was not started holds of the
results of a run. -/
theorem runAll_ends {F : Failure → Prop} {R : Job → TargetResult → Prop} {cancelled : Action σ Bool}
    (hc : cancelled.Ends (fun _ => True) F) {work : Job → Action σ TargetResult} {jobs : List Job}
    (hname : ∀ job ∈ jobs, ¬job.target.deviceName.hasText = true → F .unwritten)
    (hwork : ∀ job ∈ jobs, (work job).Ends (R job) F)
    (hrefused : ∀ job ∈ jobs, R job (Executor.cancelledResult job)) :
    (Executor.runAll cancelled work jobs).Ends (List.Forall₂ R jobs) F := by
  induction jobs with
  | nil => exact Action.ends_pure .nil
  | cons job jobs ih =>
    rw [List.forall_mem_cons] at hname hwork hrefused
    have hone : (Executor.runOne cancelled work job).Ends (R job) F := by
      refine hc.bind fun stop _ => ?_
      cases stop with
      | true =>
        exact (ends_words hname.1).bind fun _ _ => (Action.ends_log _ _).bind fun _ _ =>
          Action.ends_pure hrefused.1
      | false => exact hwork.1
    have hrest := ih hname.2 hwork.2 hrefused.2
    exact hone.bind fun r hr => hrest.bind fun rs hrs => Action.ends_pure (.cons hr hrs)

/-- The jobs of a run on several workers have results with what holds of the results of their work and of
the reports of jobs that were not started. -/
theorem interleaved_ends {R : Job → TargetResult → Prop} {jobs : List Job} {workers : Nat} {before : Bool}
    {es : List Executor.Pool.Event} {p : Executor.Pool} (hr : Executor.Pool.Run jobs workers before es p)
    (hend : p.Ended jobs workers) (hpos : 1 ≤ workers)
    (hdone : ∀ i r job, .done i r ∈ es → jobs[i]? = some job → R job r)
    (hrefused : ∀ job ∈ jobs, R job (Executor.cancelledResult job)) :
    ∃ rs, p.results = rs.map some ∧ List.Forall₂ R jobs rs := by
  have hcut := hend.cutAt hr hpos
  have hlooked := (hend.complete (Executor.Pool.Counts.of_run hr) hpos).1
  have hlength := (Executor.Pool.Counts.of_run hr).length_eq
  refine forall₂_some (List.forall₂_iff_get.2 ⟨hlength.symm, fun i hi hi' => ?_⟩)
  have hjob : jobs[i]? = some jobs[i] := List.getElem?_eq_getElem hi
  have hresult : p.results[i]? = some p.results[i] := List.getElem?_eq_getElem hi'
  by_cases hcalled : i < (Executor.Pool.calls es).length
  · obtain ⟨r, hmem, hres⟩ := hcut.returned i hcalled
    exact ⟨r, Option.some.inj (hresult.symm.trans hres), hdone i r _ hmem hjob⟩
  · have hres := (Executor.Pool.Results.of_run hr).refused i _ (not_lt.1 hcalled) (hlooked ▸ hi) hjob
    exact ⟨_, Option.some.inj (hresult.symm.trans hres), hrefused _ (List.getElem_mem hi)⟩

/-! ## Rollouts -/

theorem conclude_ends (e : Engine σ) (intent : Intent) (options : RunOptions) (skipped : List Value)
    (results : List TargetResult) :
    (e.conclude intent options skipped results).Ends (· = .ofResults results skipped options.dryRun)
      fun _ => True :=
  (Action.ends_any _).bind fun _ _ => (Action.ends_any _).bind fun _ _ =>
    (Action.ends_any _).bind fun _ _ => (Action.ends_any _).bind fun _ _ => Action.ends_pure rfl

/-- The result of a job says enough and has its name. -/
def Tolds (dryRun : Bool) (job : Job) (r : TargetResult) : Prop :=
  r.IsTold dryRun ∧ r.nodeId = job.nodeId

theorem tolds_cancelledResult (dryRun : Bool) (job : Job) :
    Tolds dryRun job (Executor.cancelledResult job) := ⟨isTold_cancelledResult dryRun job, rfl⟩

theorem isTold_of_tolds {dryRun : Bool} {jobs : List Job} {rs : List TargetResult}
    (h : List.Forall₂ (Tolds dryRun) jobs rs) : ∀ r ∈ rs, r.IsTold dryRun := fun r hr => by
  obtain ⟨job, -, htold, -⟩ := forall₂_exists_left h r hr
  exact htold

/-- A rollout that returns reports the truth, wherever it was cancelled. -/
theorem apply_ends (h : e.HoldsVariants) (cancelled : Action σ Bool)
    (s : Schedule) (t : Topology) (options : RunOptions) :
    (e.apply cancelled (.schedule s) t options).Ends
      (fun o => o.IsTruthful ∧ o.dryRun = options.dryRun ∧ o.error = none) fun _ => True := by
  rw [apply_eq]
  refine (buildJobs_ends h t.nodes).bind fun (jobs, skipped) ⟨hjobs, _⟩ => ?_
  refine (Action.ends_log _ _).bind fun _ _ => ?_
  have hrun : (Executor.run e.settings.maxWorkers cancelled (e.runJob (.schedule s) options.dryRun)
      jobs).Ends (List.Forall₂ (Tolds options.dryRun) jobs) fun _ => True := by
    refine (Action.ends_any _).bind fun few _ => ?_
    have hall : (Executor.runAll cancelled (e.runJob (.schedule s) options.dryRun) jobs).Ends
        (List.Forall₂ (Tolds options.dryRun) jobs) fun _ => True :=
      runAll_ends (Action.ends_any _) (fun _ _ _ => trivial)
        (fun job hjob => runJob_ends (Action.ends_any _) (fun _ => trivial) (hjobs job hjob).1 s options.dryRun)
        fun job _ => tolds_cancelledResult options.dryRun job
    cases few with
    | true => exact (Action.ends_throw (P := fun _ => True) trivial).bind fun _ _ => hall
    | false => exact hall
  refine hrun.bind fun rs hrs => ?_
  refine (conclude_ends e _ options skipped rs).mono ?_ fun _ => id
  rintro o rfl
  exact ⟨Outcome.isTruthful_ofResults (isTold_of_tolds hrs) skipped, rfl, rfl⟩

/-! ## Rollouts that return -/

/-- What a rollout needs in order to return: a store that fails only as a store does, and clocks, an audit
log and a question for a cancellation that do not fail. -/
structure Steady (e : Engine σ) (cancelled : Action σ Bool) : Prop where
  models : ∀ id, (e.models id).Ends (fun _ => True) fun f => ∃ err, f = .error err ∧ err.kind.isA .store = true
  clock : e.clock.Succeeds
  now : e.now.Succeeds
  audit : ∀ line, (e.audit line).Succeeds
  cancelled : cancelled.Succeeds

theorem succeeds_jobsOf {cancelled : Action σ Bool} (h : e.Steady cancelled) {node : Node}
    (hd : node.IsDeclared) (htold : e.serves node = true → node.management.TellsSecret) :
    (e.jobsOf node).Succeeds := by
  obtain ⟨b, hb⟩ := registry_get_ok (e := e) hd.protocol
  have hmodel : (e.modelOf node).Ends (fun _ => True) fun _ => False := by
    refine (h.models node.id).attempt.bind fun r hr => ?_
    rcases r with f | model
    · obtain ⟨err, rfl, hstore⟩ := hr
      dsimp only
      rw [if_pos hstore, Value.words_of_hasText hd.hasText_id]
      exact (Action.ends_ofExcept (r := .ok _) (P := fun _ => True) trivial).bind fun _ _ =>
        (Action.ends_log _ _).bind fun _ _ => Action.ends_pure trivial
    · exact Action.ends_pure trivial
  intro j
  rw [jobsOf, hb, Action.exec_bind_ok (Action.exec_ofExcept _ j)]
  cases b with
  | none =>
    obtain ⟨s, hs⟩ := hd.protocol
    dsimp only
    rw [Value.words_of_hasText hd.hasText_id, hs]
    exact ⟨_, _, rfl⟩
  | some backend =>
    have hserves : e.serves node = true := by simp only [serves, hb]
    obtain ⟨model, i, hi, -⟩ := hmodel.exec_ok j
    obtain ⟨-, secret, hsecret⟩ | ⟨hn, -⟩ := node.management.secret_cases e.environment
    · exact ⟨_, i, by rw [Action.exec_bind_ok hi, hsecret]; rfl⟩
    · exact absurd (htold hserves) hn

theorem succeeds_buildJobs {cancelled : Action σ Bool} (h : e.Steady cancelled) {nodes : List Node}
    (hd : ∀ node ∈ nodes, node.IsDeclared)
    (htold : ∀ node ∈ nodes, e.serves node = true → node.management.TellsSecret) :
    (e.buildJobs nodes).Succeeds := by
  induction nodes with
  | nil => exact (Action.quiet_pure _).succeeds
  | cons node nodes ih =>
    have hrest := ih (fun n hn => hd n (List.mem_cons_of_mem _ hn)) fun n hn => htold n (List.mem_cons_of_mem _ hn)
    refine (succeeds_jobsOf h (hd node List.mem_cons_self) (htold node List.mem_cons_self)).bind
      fun own => ?_
    cases own with
    | none => exact hrest.bind fun _ => (Action.quiet_pure _).succeeds
    | some own => exact hrest.bind fun _ => (Action.quiet_pure _).succeeds

/-- A rollout to devices whose passwords are told returns, wherever it is cancelled. -/
theorem succeeds_apply {cancelled : Action σ Bool} (h : e.Steady cancelled) (hv : e.HoldsVariants)
    {workers : Int} (hw : e.settings.maxWorkers = .int workers)
    (hpos : 1 ≤ workers) (s : Schedule) {t : Topology} (hd : ∀ node ∈ t.nodes, node.IsDeclared)
    (htold : ∀ node ∈ t.nodes, e.serves node = true → node.management.TellsSecret)
    {options : RunOptions} (hsum : options.checksum.IsPlain) :
    (e.apply cancelled (.schedule s) t options).Succeeds := by
  intro j
  obtain ⟨⟨jobs, skipped⟩, i, hbuild⟩ := succeeds_buildJobs h hd htold j
  obtain ⟨hjobs, hskipped⟩ := (buildJobs_ends hv t.nodes).of_eq_ok hbuild
  have hnames : ∀ id ∈ t.nodes.map Node.id, ∃ s, id = .str s := by
    rw [List.forall_mem_map]
    exact fun node hnode => (hd node hnode).id
  have hall : (Executor.runAll cancelled (e.runJob (.schedule s) options.dryRun) jobs).Ends
      (List.Forall₂ (Tolds options.dryRun) jobs) fun _ => False := by
    have hnamed : ∀ job ∈ jobs, ¬job.target.deviceName.hasText = true → False := by
      intro job hjob hn
      obtain ⟨-, node, hnode, -, secret, port, htarget⟩ := hjobs job hjob
      exact hn (htarget ▸ (hd node hnode).hasText_deviceName secret port)
    exact runAll_ends h.cancelled.ends hnamed
      (fun job hjob => runJob_ends h.clock.ends (hnamed job hjob) (hjobs job hjob).1 s options.dryRun)
      fun job _ => tolds_cancelledResult options.dryRun job
  rw [apply_eq, Action.exec_bind_ok hbuild]
  dsimp only
  rw [Action.exec_bind_ok (Action.exec_log _ _ _), hw, Executor.run_eq_runAll hpos]
  obtain ⟨rs, i', hrun, hrs⟩ := hall.exec_ok _
  rw [Action.exec_bind_ok hrun]
  have hids : ∀ r ∈ rs, ∃ t, r.nodeId = .str t := by
    intro r hr
    obtain ⟨job, hjob, -, hid⟩ := forall₂_exists_left hrs r hr
    obtain ⟨-, node, hnode, hname, -⟩ := hjobs job hjob
    rw [hid, hname]
    exact (hd node hnode).id
  obtain ⟨j', hconclude⟩ := exec_conclude h.now h.audit s options hsum
    (fun v hv => hnames v (hskipped v hv)) hids i'
  exact ⟨_, j', hconclude⟩

end Engine

end GateRollout
