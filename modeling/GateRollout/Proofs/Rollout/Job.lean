import GateRollout.Proofs.Mapping.Rendering
import GateRollout.Proofs.Transport.Sessions
import GateRollout.Rollout.Engine

/-!
# What comes of a job

A job whose device has a name never fails: whatever goes wrong is noted in its result.  Apart from the
time it took, the result of a job depends on the intent, the job and the sessions to its own target alone.
-/

namespace GateRollout

/-- A result without the time it took. -/
def TargetResult.untimed (r : TargetResult) : TargetResult := { r with duration := .int 0 }

/-- The device of a job has a name, where the job is tried. -/
def Job.IsNamed (job : Job) : Prop :=
  ∀ model, job.model = .ok model → job.target.deviceName.hasText = true

namespace Engine

variable {σ τ : Type}

/-- The engine around a connector whose store tells the same every time and whose clocks stand still. -/
def still (connector : Connector σ) (registry : Registry Backend)
    (models : Value → Except RolloutError DeviceModel) : Engine σ where
  registry := registry
  models id := Action.ofExcept ((models id).mapError .error)
  connector := connector
  settings := {}
  environment := []
  clock := pure (.int 0)
  now := pure ⟨⟨2024, 1, 1⟩, 0, 0, 0, 0, none⟩
  audit _ := pure ()

/-! ## The two ways to try a job -/

/-- What comes of a job whose payload is only written. -/
def dryEnding (intent : Intent) (model : DeviceModel) (job : Job) :
    Option String × Except Failure (Option String) :=
  match job.backend.selected intent.feature model with
  | .error f => (none, .error f)
  | .ok plugin => (some plugin.name, (job.backend.rendered intent model job.target).map some)

theorem dryEnding_of_error {intent : Intent} {model : DeviceModel} {job : Job} {f : Failure}
    (h : job.backend.selected intent.feature model = .error f) :
    dryEnding intent model job = (none, .error f) := by
  rw [dryEnding, h]

theorem dryEnding_of_ok {intent : Intent} {model : DeviceModel} {job : Job} {p : Plugin}
    (h : job.backend.selected intent.feature model = .ok p) :
    dryEnding intent model job =
      (some p.name, (job.backend.rendered intent model job.target).map some) := by
  rw [dryEnding, h]

/-- What comes of a job that is pushed in a scripted session. -/
def pushEnding (script : SessionScript) (intent : Intent) (model : DeviceModel) (job : Job) :
    Option String × Except Failure (Option String) :=
  match job.backend.prepared intent model job.target with
  | .error f => (none, .error f)
  | .ok (p, payload) =>
    match script.edited job.target payload with
    | .error f => (none, .error (Backend.inContext p job.target "push failed" f))
    | .ok () => (some p.name, .ok none)

theorem quiet_renderJob (intent : Intent) (model : DeviceModel) (job : Job) :
    (renderJob intent model job : Action σ _).Quiet (.ok (dryEnding intent model job)) := by
  rw [renderJob, dryEnding]
  refine (job.backend.quiet_select _ _).attempt.bind_ok ?_
  cases job.backend.selected intent.feature model with
  | error f => exact Action.quiet_pure _
  | ok plugin =>
    exact (job.backend.quiet_render intent model job.target).attempt.bind_ok (Action.quiet_pure _)

theorem exec_pushJob {e : Engine σ} {script : SessionScript} (h : e.connector.Follows script)
    (intent : Intent) (model : DeviceModel) (job : Job) (j : Journal σ) :
    ((e.pushJob intent model job).exec j).1 = .ok (pushEnding script intent model job) := by
  obtain ⟨i, -, hexec⟩ := job.backend.push_leads e.connector intent model job.target j
  rw [pushJob, Action.exec_bind_ok (Action.exec_attempt _ j), hexec, pushEnding]
  cases job.backend.prepared intent model job.target with
  | error f => rfl
  | ok prepared =>
    obtain ⟨p, payload⟩ := prepared
    have hedit := h.editOnce job.target payload i
    simp only [Plugin.deliver, Action.exec_bind, Backend.exec_within]
    rcases hx : (e.connector.editOnce job.target payload).exec i with ⟨_ | _, i'⟩
    all_goals
    · rw [hx] at hedit
      simp only at hedit
      rw [← hedit]
      rfl

/-! ## The result -/

/-- Try a job: write its payload, or push it. -/
def tryJob (e : Engine σ) (intent : Intent) (dryRun : Bool) (model : DeviceModel) (job : Job) :
    Action σ (Option String × Except Failure (Option String)) :=
  if dryRun then renderJob intent model job else e.pushJob intent model job

/-- Note what came of a job that was tried. -/
def report (e : Engine σ) (dryRun : Bool) (job : Job) (start began : Number)
    (x : Option String × Except Failure (Option String)) : Action σ TargetResult := do
  let failure := match x.2 with
    | .ok _ => none
    | .error f => some f
  let r := (sectionOf dryRun job).record began (← e.clock) failure
  Action.logAside r.level r.message
  match failure with
  | none => pure ()
  | some f => logFailure job f
  let stop ← e.clock
  return resultOf job ((stop.sub start).mul (.int 1000)) x.1 x.2

theorem runKnown_eq (e : Engine σ) (intent : Intent) (dryRun : Bool) (model : DeviceModel) (job : Job) :
    e.runKnown intent dryRun model job = (do
      let start ← e.clock
      let _ ← Action.ofExcept job.target.words
      let began ← e.clock
      e.report dryRun job start began (← e.tryJob intent dryRun model job)) := by
  cases dryRun <;> rfl

theorem resultOf_untimed (job : Job) (duration : Number) (plugin : Option String)
    (ending : Except Failure (Option String)) :
    (resultOf job duration plugin ending).untimed = resultOf job (.int 0) plugin ending := by
  rcases ending with (_ | _) | _ <;> rfl

theorem resultOf_names (job : Job) (duration : Number) (plugin : Option String)
    (ending : Except Failure (Option String)) :
    (resultOf job duration plugin ending).nodeId = job.nodeId ∧
    (resultOf job duration plugin ending).interface = job.target.interface := by
  rcases ending with (_ | _) | _ <;> exact ⟨rfl, rfl⟩

theorem isSuccess_resultOf (job : Job) (duration : Number) (plugin : Option String)
    (ending : Except Failure (Option String)) :
    (resultOf job duration plugin ending).isSuccess = ending.isOk := by
  rcases ending with (_ | _) | _ <;> rfl

theorem quiet_logFailure (job : Job) (f : Failure) :
    (logFailure job f : Action σ Unit).Quiet (.ok ()) := by
  cases f <;> exact Action.quiet_log _ _

theorem exec_report {e : Engine σ} {view : σ → τ} (hclock : e.clock.Keeps view) (dryRun : Bool)
    (job : Job) (start began : Number) (x : Option String × Except Failure (Option String))
    (j : Journal σ) :
    ∃ r j', (e.report dryRun job start began x).exec j = (.ok r, j') ∧
      r.untimed = resultOf job (.int 0) x.1 x.2 ∧ view j'.world = view j.world := by
  obtain ⟨t, j₁, ht, hw₁⟩ := hclock j
  obtain ⟨plugin, ending⟩ := x
  rw [report, Action.exec_bind_ok ht, Action.exec_bind_ok (Action.exec_logAside _ _ _)]
  generalize hj : ({ j₁ with asides := j₁.asides ++ [_] } : Journal σ) = j₂
  have hw₂ : j₂.world = j₁.world := by rw [← hj]
  cases ending with
  | ok payload =>
    obtain ⟨stop, j', hstop, hw⟩ := hclock j₂
    exact ⟨_, j', Action.exec_bind_ok hstop _, resultOf_untimed .., by rw [hw, hw₂, hw₁]⟩
  | error f =>
    obtain ⟨j₃, hlog, hw₃⟩ := (quiet_logFailure job f).exec_eq j₂
    obtain ⟨stop, j', hstop, hw⟩ := hclock j₃
    refine ⟨resultOf job ((stop.sub start).mul (.int 1000)) plugin (.error f), j', ?_,
      resultOf_untimed .., by rw [hw, hw₃, hw₂, hw₁]⟩
    exact (Action.exec_bind_ok hlog _).trans (Action.exec_bind_ok hstop _)

/-- A job is tried once between two readings of the clock, and its result notes what came of it. -/
theorem exec_runKnown {e : Engine σ} {view : σ → τ} (hclock : e.clock.Keeps view) (intent : Intent)
    (dryRun : Bool) (model : DeviceModel) {job : Job} (hname : job.target.deviceName.hasText = true)
    (htry : (e.tryJob intent dryRun model job).Succeeds) (j : Journal σ) :
    ∃ i x i' r j', view i.world = view j.world ∧
      (e.tryJob intent dryRun model job).exec i = (.ok x, i') ∧
      (e.runKnown intent dryRun model job).exec j = (.ok r, j') ∧
      r.untimed = resultOf job (.int 0) x.1 x.2 ∧ view j'.world = view i'.world := by
  obtain ⟨start, j₁, hstart, hw₁⟩ := hclock j
  obtain ⟨began, i, hbegan, hw₂⟩ := hclock j₁
  obtain ⟨x, i', hx⟩ := htry i
  obtain ⟨r, j', hr, hres, hw⟩ := exec_report hclock dryRun job start began x i'
  refine ⟨i, x, i', r, j', hw₂.trans hw₁, hx, ?_, hres, hw⟩
  rw [runKnown_eq, Action.exec_bind_ok hstart, Target.words_of_hasText hname,
    Action.exec_bind_ok (Action.exec_ofExcept _ _), Action.exec_bind_ok hbegan, Action.exec_bind_ok hx, hr]

/-- A job whose device has no name is not tried. -/
theorem exec_runKnown_of_nameless {e : Engine σ} (hclock : e.clock.Succeeds) (intent : Intent)
    (dryRun : Bool) (model : DeviceModel) {job : Job} (hname : ¬job.target.deviceName.hasText = true)
    (j : Journal σ) : ∃ j', (e.runKnown intent dryRun model job).exec j = (.error .unwritten, j') := by
  obtain ⟨start, j', hstart⟩ := hclock j
  refine ⟨j', ?_⟩
  rw [runKnown_eq, Action.exec_bind_ok hstart, Target.words_of_not_hasText hname,
    Action.exec_bind_error (Action.exec_ofExcept _ _)]

/-- Trying a job never fails: what goes wrong is kept. -/
theorem succeeds_tryJob (e : Engine σ) (intent : Intent) (dryRun : Bool) (model : DeviceModel) (job : Job) :
    (e.tryJob intent dryRun model job).Succeeds := by
  intro j
  cases dryRun with
  | true => exact (quiet_renderJob intent model job).succeeds j
  | false =>
    change ∃ x j', (e.pushJob intent model job).exec j = (.ok x, j')
    rw [pushJob, Action.exec_bind_ok (Action.exec_attempt _ j)]
    rcases (job.backend.push e.connector intent model job.target).exec j with ⟨f | p, j'⟩
    · exact ⟨_, j', rfl⟩
    · exact ⟨_, j', rfl⟩

/-- A job whose device has a name never fails, whatever is at the devices. -/
theorem succeeds_runJob {e : Engine σ} (hclock : e.clock.Succeeds) (intent : Intent) (dryRun : Bool)
    {job : Job} (hname : job.IsNamed) : (e.runJob intent dryRun job).Succeeds := by
  intro j
  rw [runJob]
  cases hm : job.model with
  | error err => exact ⟨_, j, rfl⟩
  | ok model =>
    obtain ⟨-, -, -, r, j', -, -, hr, -, -⟩ := exec_runKnown hclock.keeps intent dryRun model (hname model hm)
      (e.succeeds_tryJob intent dryRun model job) j
    exact ⟨r, j', hr⟩

/-- The result of a job in scripted sessions, without the time it took. -/
def jobResult (script : SessionScript) (intent : Intent) (dryRun : Bool) (job : Job) : TargetResult :=
  match job.model with
  | .error err => (modelFailure job err).untimed
  | .ok model =>
    let x := if dryRun then dryEnding intent model job else pushEnding script intent model job
    resultOf job (.int 0) x.1 x.2

/-- A job whose device has a name never fails, and up to the time it takes its result is the same from every
journal. -/
theorem exec_runJob {e : Engine σ} {script : SessionScript} (hc : e.connector.Follows script)
    (hclock : e.clock.Succeeds) (intent : Intent) (dryRun : Bool) {job : Job}
    (hname : job.IsNamed) (j : Journal σ) :
    ∃ r j', (e.runJob intent dryRun job).exec j = (.ok r, j') ∧
      r.untimed = jobResult script intent dryRun job := by
  have htry : ∀ model i, ((e.tryJob intent dryRun model job).exec i).1 =
      .ok (if dryRun then dryEnding intent model job else pushEnding script intent model job) := by
    intro model i
    cases dryRun with
    | true => exact (quiet_renderJob intent model job i).1
    | false => exact exec_pushJob hc intent model job i
  rw [runJob, jobResult]
  cases hm : job.model with
  | error err => exact ⟨_, j, rfl, rfl⟩
  | ok model =>
    obtain ⟨i, x, i', r, j', -, hx, hr, hres, -⟩ := exec_runKnown hclock.keeps intent dryRun model
      (hname model hm) (e.succeeds_tryJob intent dryRun model job) j
    have hxi := htry model i
    rw [hx] at hxi
    obtain rfl := Except.ok.inj hxi
    exact ⟨r, j', hr, hres⟩

end Engine

end GateRollout
