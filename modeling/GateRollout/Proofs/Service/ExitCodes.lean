import GateRollout.CommandLine.Run
import GateRollout.Proofs.Rollout.Report

/-!
# Exit codes

The exit code of a command that applies a configuration is that of the report of its rollout: zero where
everything was configured, two where some was, and one where nothing was.
-/

namespace GateRollout

variable {σ : Type}

/-! ## The service -/

/-- The backend of the plugins of this library. -/
def shipped : Backend := ⟨"netconf", [(Schedule.feature, [.standard, .legacy])]⟩

theorem holdsVariants_shipped : shipped.HoldsVariants := by
  intro group hgroup p hp
  obtain rfl := List.mem_singleton.1 hgroup
  simp only [List.mem_cons, List.not_mem_nil, or_false] at hp
  rcases hp with rfl | rfl
  · exact ⟨_, .inl rfl⟩
  · exact ⟨_, .inr rfl⟩

theorem defaultRegistry_ends :
    (defaultRegistry : Action σ (Registry Backend)).Ends (· = ⟨[("netconf", shipped)]⟩) fun _ => True := by
  intro j
  rfl

namespace Outcome

/-- That nothing could be tried is the truth about no results. -/
theorem isTruthful_unresolved (error : String) : (unresolved error).IsTruthful where
  total := rfl
  sum := rfl
  failures := rfl
  applied_iff := iff_of_false nofun fun h => h.1 rfl
  partiallyApplied_iff := iff_of_false nofun fun ⟨⟨_, hr, _⟩, _⟩ => List.not_mem_nil hr
  notApplied_iff := iff_of_true rfl nofun
  told := nofun

end Outcome

namespace Service

/-- What the service answers is the outcome of a rollout. -/
theorem ofOutcome_endsIn (o : Outcome) :
    EndsIn (fun r => r.outcome = o) (fun _ => True) (Response.ofOutcome o) := by
  rw [Response.ofOutcome]
  cases o.summary with
  | ok summary => rfl
  | error f => trivial

theorem apply_ends {svc : Service σ} (hv : svc.engine.HoldsVariants) (name : Value) (dryRun : Bool) :
    (svc.apply name dryRun).Ends (fun r => r.outcome.IsTruthful) fun _ => True := by
  have hanswer : ∀ o : Outcome, o.IsTruthful →
      (Action.ofExcept (Response.ofOutcome o) : Action σ Response).Ends (fun r => r.outcome.IsTruthful)
        fun _ => True := fun o ho =>
    (Action.ends_ofExcept (ofOutcome_endsIn o)).mono (fun r hr => hr ▸ ho) fun _ => id
  rw [Service.apply]
  rcases svc.store.resolve name with (err | f) | ⟨s, t⟩
  · exact (Action.ends_any _).bind fun _ _ => (Action.ends_log _ _).bind fun _ _ =>
      hanswer _ (Outcome.isTruthful_unresolved _)
  · exact Action.ends_throw trivial
  · refine (Action.ends_any _).bind fun checksum _ => ?_
    exact (svc.engine.apply_ends hv _ s t _).bind fun o ho => hanswer o ho.1

end Service

/-! ## Commands -/

namespace CommandLine

open Executor

/-- An exit code that says how much of an outcome was configured: everything, some, or nothing. -/
structure TellsCode (o : Outcome) (code : Nat) : Prop where
  zero_iff : code = 0 ↔ o.results ≠ [] ∧ ∀ r ∈ o.results, r.status = .success
  two_iff : code = 2 ↔
    (∃ r ∈ o.results, r.status = .success) ∧ ∃ r ∈ o.results, r.status ≠ .success
  one_iff : code = 1 ↔ ∀ r ∈ o.results, r.status ≠ .success

theorem tellsCode_codeOf {o : Outcome} (h : o.IsTruthful) : TellsCode o (Ending.codeOf o.status) where
  zero_iff := by
    rw [← h.applied_iff]
    cases o.status <;> simp [Ending.codeOf]
  two_iff := by
    rw [← h.partiallyApplied_iff]
    cases o.status <;> simp [Ending.codeOf]
  one_iff := by
    rw [← h.notApplied_iff]
    cases o.status <;> simp [Ending.codeOf]

theorem serviceFor_ends (h : Host σ) (d : Netconf.Dialer σ) (s : Settings) (auditLog : String) :
    (serviceFor h d s auditLog).Ends (fun svc => svc.engine.HoldsVariants) fun _ => True := by
  refine (Action.ends_any _).bind fun inv _ => defaultRegistry_ends.bind fun registry hregistry => ?_
  refine Action.ends_pure fun entry hentry => ?_
  obtain rfl := hregistry
  obtain rfl := List.mem_singleton.1 hentry
  exact holdsVariants_shipped

/-- Applying a configuration prints the report of a rollout and ends with its exit code, unless an error
kept it from being carried out; that error is reported instead. -/
theorem run_apply_ends (h : Host σ) (d : Netconf.Dialer σ) {i : Invocation}
    {configuration : String} {dryRun : Bool} {workers : Option Int}
    (hi : i.command = .apply configuration dryRun workers) :
    (run h d i).Ends (fun ending =>
      (∃ r : Response, r.outcome.IsTruthful ∧ TellsCode r.outcome ending.code ∧
        ending = .ofResponse dryRun r) ∨
      ending.code = 1 ∧ ending.report.isSome = true) fun _ => True := by
  have hcarried : (do
      carryOut h d (← Action.ofExcept (i.settings h.environment)) i.command : Action σ Ending).Ends
        (fun ending => ∃ r : Response, r.outcome.IsTruthful ∧ TellsCode r.outcome ending.code ∧
          ending = .ofResponse dryRun r) fun _ => True := by
    refine (Action.ends_any _).bind fun s _ => ?_
    rw [hi, carryOut]
    refine Action.Ends.bind ((Action.ends_any _).bind fun log _ => serviceFor_ends h d s log) ?_
    intro svc hv
    refine (Service.apply_ends hv _ dryRun).bind fun r hr => ?_
    exact Action.ends_pure ⟨r, hr, tellsCode_codeOf hr, rfl⟩
  refine hcarried.attempt.bind fun result hresult => ?_
  cases result with
  | ok ending => exact Action.ends_pure (.inl hresult)
  | error f =>
    dsimp only
    rcases f with err | f
    · exact Action.ends_pure (.inr ⟨rfl, rfl⟩)
    · rw [Ending.ofFailure?]
      by_cases hvalue : f.kind.isValueFault = true
      · rw [if_pos hvalue]
        exact Action.ends_pure (.inr ⟨rfl, rfl⟩)
      · rw [if_neg hvalue]
        exact Action.ends_throw trivial

/-- The report of a rollout of a schedule is truthful, and so is the exit code of its command.  This
holds of every rollout that returns, as do all to devices whose passwords are told where the store, the
clocks and the audit log work; of every interleaving of its jobs, wherever it is cancelled; and of every
command that applies a configuration. -/
theorem report_truthful {e : Engine σ} (hv : e.HoldsVariants) (s : Schedule) (t : Topology)
    (options : RunOptions) :
    (∀ cancelled j o j', (e.apply cancelled (.schedule s) t options).exec j = (.ok o, j') →
      o.IsTruthful ∧ o.dryRun = options.dryRun ∧ o.error = none ∧
        ∀ success message, TellsCode o (Ending.ofResponse options.dryRun ⟨success, message, o⟩).code) ∧
    (∀ cancelled (workers : Int), e.Steady cancelled → e.settings.maxWorkers = .int workers →
      1 ≤ workers → (∀ node ∈ t.nodes, node.IsDeclared) →
      (∀ node ∈ t.nodes, e.serves node = true → node.management.TellsSecret) →
      options.checksum.IsPlain → (e.apply cancelled (.schedule s) t options).Succeeds) ∧
    (∀ j jobs skipped j', (e.buildJobs t.nodes).exec j = (.ok (jobs, skipped), j') →
      ∀ workers before es p, 1 ≤ workers → Pool.Run jobs workers before es p → p.Ended jobs workers →
      (∀ i r job, .done i r ∈ es → jobs[i]? = some job →
        ∃ k, ((e.runJob (.schedule s) options.dryRun job).exec k).1 = .ok r) →
      ∃ rs, p.results = rs.map some ∧ (Outcome.ofResults rs skipped options.dryRun).IsTruthful) ∧
    ∀ (τ : Type) (h : Host τ) (d : Netconf.Dialer τ) (i : Invocation) configuration dryRun workers,
      i.command = .apply configuration dryRun workers →
      (run h d i).Ends (fun ending =>
        (∃ r : Response, r.outcome.IsTruthful ∧ TellsCode r.outcome ending.code ∧
          ending = .ofResponse dryRun r) ∨
        ending.code = 1 ∧ ending.report.isSome = true) fun _ => True := by
  refine ⟨fun cancelled j o j' hexec => ?_, fun cancelled workers hs hw hpos hd htold hsum => ?_,
    fun j jobs skipped j' hbuild workers before es p hpos hr hend hdone => ?_,
    fun τ h d i configuration dryRun workers hi => run_apply_ends h d hi⟩
  · obtain ⟨htrue, hdry, herror⟩ := (e.apply_ends hv cancelled s t options).of_eq_ok hexec
    exact ⟨htrue, hdry, herror, fun _ _ => tellsCode_codeOf htrue⟩
  · exact Engine.succeeds_apply hs hv hw hpos s hd htold hsum
  · obtain ⟨hjobs, -⟩ := (Engine.buildJobs_ends hv t.nodes).of_eq_ok hbuild
    have htold : ∀ i r job, .done i r ∈ es → jobs[i]? = some job →
        Engine.Tolds options.dryRun job r := by
      intro i r job hmem hjob
      obtain ⟨k, hk⟩ := hdone i r job hmem hjob
      have hends := Engine.runJob_ends (e := e) (Action.ends_any _) (fun _ => trivial)
        (hjobs job (List.mem_of_getElem? hjob)).1 s options.dryRun k
      rwa [hk] at hends
    obtain ⟨rs, hrs, hresults⟩ := Engine.interleaved_ends hr hend hpos htold fun job _ =>
      Engine.tolds_cancelledResult options.dryRun job
    exact ⟨rs, hrs, Outcome.isTruthful_ofResults (Engine.isTold_of_tolds hresults) skipped⟩

/-- A device whose first port times out without a word: the rollout reports the truth about both ports. -/
theorem report_truthful_of_timeout :
    let script : SessionScript :=
      { opens := fun target => if target.interface = "p1" then .error (.fault ⟨.timedOut, ""⟩) else .ok ()
        edits := fun _ _ => .ok ()
        closes := fun _ => .ok () }
    let e : Engine Unit := Engine.still (.scripted script) ⟨[("netconf", shipped)]⟩
      fun _ => .ok ⟨Plugin.standard.required⟩
    let node : Node := ⟨.str "a", { address := .str "192.0.2.1" }, [⟨"p1"⟩, ⟨"p2"⟩]⟩
    let s : Schedule := ⟨"s", 0, 1000, .enabled, [], none⟩
    e.HoldsVariants ∧
      ∃ o j', (e.apply (pure false) (.schedule s) ⟨[node]⟩ {}).exec ⟨[], [], ()⟩ = (.ok o, j') ∧
        o.IsTruthful ∧
        ∀ success message, TellsCode o (Ending.ofResponse false ⟨success, message, o⟩).code := by
  intro script e node s
  have hv : e.HoldsVariants := by
    intro entry hentry
    obtain rfl := List.mem_singleton.1 hentry
    exact holdsVariants_shipped
  obtain ⟨htruth, hreturns, -⟩ := report_truthful hv s ⟨[node]⟩ {}
  have hsteady : e.Steady (pure false) :=
    { models := fun _ => Action.ends_ofExcept trivial
      clock := (Action.quiet_pure _).succeeds
      now := (Action.quiet_pure _).succeeds
      audit := fun _ => (Action.quiet_pure ()).succeeds
      cancelled := (Action.quiet_pure _).succeeds }
  obtain ⟨o, j', hexec⟩ := hreturns (pure false) 8 hsteady rfl (by decide)
    (List.forall_mem_singleton.2 ⟨⟨_, rfl⟩, ⟨_, rfl⟩, .inl rfl⟩)
    (List.forall_mem_singleton.2 fun _ => .inr ⟨_, rfl⟩) .null ⟨[], [], ()⟩
  obtain ⟨htrue, -, -, hcode⟩ := htruth (pure false) _ o j' hexec
  exact ⟨hv, o, j', hexec, htrue, hcode⟩

end CommandLine

end GateRollout
