import GateRollout.Proofs.Mapping.Variants
import GateRollout.Proofs.Rollout.Job
import GateRollout.Service

/-!
# Dry runs, renderings and pushes agree

A dry run selects, then renders; a rendering selects and maps again; a push maps once more and sends
what it has written.  For the plugins of this library the three come to the same: the same payload, or
the same error.  Only the push opens a session, and only when there is a payload.
-/

namespace GateRollout

variable {σ : Type}

/-! ## Ways to render -/

/-- The ways to render what a job would send: by the job's own backend, where the modules of the device
are known, and by a service that has the schedule, the device and its modules in store. -/
inductive Renders (s : Schedule) (job : Job) : Action σ String → Prop where
  | backend {model : DeviceModel} (known : job.model = .ok model) :
      Renders s job (job.backend.render (.schedule s) model job.target)
  | service {svc : Service σ} {id nodeId : Value} {topology : Topology} {node : Node} {port : Port}
      (stored : svc.store.resolve id = .ok (s, topology)) (found : topology.node? nodeId = some node)
      (mem : port ∈ node.ports) (same : port.name = job.target.interface)
      (registered : svc.engine.registry.get node.management.protocol = .ok (some job.backend))
      (model : svc.store.model nodeId = job.model.mapError .error)
      (named : (Target.mk node.management (.str "") port.name nodeId).deviceName.hasText = true) :
      Renders s job (svc.render id nodeId port.name)

/-- Rendering a job comes to what its backend renders for a target with a name on the port of the job,
unless the modules of the device are not known. -/
theorem Renders.quiet {s : Schedule} {job : Job} (hname : job.target.deviceName.hasText = true)
    {x : Action σ String} (h : Renders s job x) :
    ∃ target : Target, target.interface = job.target.interface ∧ target.deviceName.hasText = true ∧
      x.Quiet (match job.model with
        | .error err => .error (.error err)
        | .ok model => job.backend.rendered (.schedule s) model target) := by
  cases h with
  | backend known =>
    rw [known]
    exact ⟨job.target, rfl, hname, job.backend.quiet_render _ _ _⟩
  | @service svc id nodeId topology node port stored found mem same registered model named =>
    refine ⟨⟨node.management, .str "", port.name, nodeId⟩, same, named, ?_⟩
    have hbackend : svc.backendFor topology nodeId = .ok (node, job.backend) := by
      rw [Service.backendFor, found]
      dsimp only
      rw [registered]
      rfl
    rw [Service.render, stored]
    refine (Action.quiet_ofExcept _).bind_ok ?_
    dsimp only
    rw [hbackend]
    refine (Action.quiet_ofExcept _).bind_ok ?_
    dsimp only
    rw [model]
    cases job.model with
    | error err => exact (Action.quiet_ofExcept _).bind_error
    | ok m => exact (Action.quiet_ofExcept _).bind_ok (job.backend.quiet_render _ _ _)

theorem Renders.quiet_of_unknown {s : Schedule} {job : Job} (hname : job.target.deviceName.hasText = true)
    {x : Action σ String} {err : RolloutError} (hm : job.model = .error err) (h : Renders s job x) :
    x.Quiet (.error (.error err)) := by
  obtain ⟨target, -, -, hquiet⟩ := h.quiet hname
  rw [hm] at hquiet
  exact hquiet

theorem Renders.quiet_of_known {s : Schedule} {job : Job} (hname : job.target.deviceName.hasText = true)
    {x : Action σ String} {model : DeviceModel} (hm : job.model = .ok model) (h : Renders s job x) :
    ∃ target : Target, target.interface = job.target.interface ∧ target.deviceName.hasText = true ∧
      x.Quiet (job.backend.rendered (.schedule s) model target) := by
  obtain ⟨target, hinterface, htarget, hquiet⟩ := h.quiet hname
  rw [hm] at hquiet
  exact ⟨target, hinterface, htarget, hquiet⟩

namespace Engine

variable {e : Engine σ} {log : σ → List SessionEvent}

/-! ## Sessions of a job -/

/-- A job with a payload opens one session, in which the payload is sent. -/
theorem exec_pushJob_of_ok (hc : e.connector.Obliges log) {intent : Intent} {model : DeviceModel}
    {job : Job} {p : Plugin} {text : String}
    (hp : job.backend.prepared intent model job.target = .ok (p, text)) (j : Journal σ) :
    ∃ j', (e.pushJob intent model job).exec j = (.ok (some p.name, .ok none), j') ∧
      log j'.world = log j.world ++ SessionEvent.session job.target text := by
  obtain ⟨i, hi, hexec⟩ := job.backend.push_leads e.connector intent model job.target j
  obtain ⟨i₁, hedit, hlog⟩ := hc.editOnce job.target text i
  obtain ⟨i₂, hdeliver, hw⟩ := p.exec_deliver hedit
  refine ⟨i₂, ?_, by rw [hw, hlog, hi]⟩
  rw [pushJob, Action.exec_bind_ok (Action.exec_attempt _ j), hexec, hp]
  dsimp only
  rw [Action.exec_bind, Backend.exec_within, hdeliver]
  rfl

/-- A job without a payload opens no session. -/
theorem exec_pushJob_of_error {intent : Intent} {model : DeviceModel} {job : Job} {f : Failure}
    (hp : job.backend.prepared intent model job.target = .error f) (j : Journal σ) :
    ∃ j', (e.pushJob intent model job).exec j = (.ok (none, .error f), j') ∧ j'.world = j.world := by
  obtain ⟨i, hi, hexec⟩ := job.backend.push_leads e.connector intent model job.target j
  rw [hp] at hexec
  refine ⟨i, ?_, hi⟩
  rw [pushJob, Action.exec_bind_ok (Action.exec_attempt _ j), hexec]
  rfl

/-- The result of a job that is tried is made of what comes of it, and its sessions are those of the
try. -/
theorem exec_runJob_of_ok (hclock : e.clock.Keeps log) {intent : Intent} {dryRun : Bool} {job : Job}
    (hname : job.target.deviceName.hasText = true) {model : DeviceModel} (hm : job.model = .ok model)
    {x : Option String × Except Failure (Option String)} {events : List SessionEvent}
    (htry : ∀ i, ∃ i', (e.tryJob intent dryRun model job).exec i = (.ok x, i') ∧
      log i'.world = log i.world ++ events) (j : Journal σ) :
    ∃ r j', (e.runJob intent dryRun job).exec j = (.ok r, j') ∧
      r.untimed = resultOf job (.int 0) x.1 x.2 ∧ log j'.world = log j.world ++ events := by
  have hsucceeds : (e.tryJob intent dryRun model job).Succeeds := fun i =>
    let ⟨i', hi, _⟩ := htry i
    ⟨x, i', hi⟩
  obtain ⟨i, x', i', r, j', hi, hx, hr, hres, hj⟩ :=
    exec_runKnown hclock intent dryRun model hname hsucceeds j
  obtain ⟨i'', hx', hlog⟩ := htry i
  rw [hx] at hx'
  obtain ⟨hxeq, rfl⟩ := Prod.mk.inj hx'
  obtain rfl := Except.ok.inj hxeq
  refine ⟨r, j', ?_, hres, by rw [hj, hlog, hi]⟩
  rw [runJob, hm]
  exact hr

theorem exec_dryRun (hclock : e.clock.Keeps log) (intent : Intent) {job : Job}
    (hname : job.target.deviceName.hasText = true) {model : DeviceModel} (hm : job.model = .ok model)
    (j : Journal σ) :
    ∃ r j', (e.runJob intent true job).exec j = (.ok r, j') ∧
      r.untimed = resultOf job (.int 0) (dryEnding intent model job).1 (dryEnding intent model job).2 ∧
      log j'.world = log j.world := by
  have htry : ∀ i, ∃ i', (e.tryJob intent true model job).exec i =
      (.ok (dryEnding intent model job), i') ∧ log i'.world = log i.world ++ [] := by
    intro i
    obtain ⟨i', hi, hw⟩ := (quiet_renderJob intent model job).exec_eq i
    exact ⟨i', hi, by rw [hw, List.append_nil]⟩
  obtain ⟨r, j', hr, hres, hlog⟩ := exec_runJob_of_ok hclock hname hm htry j
  exact ⟨r, j', hr, hres, by rw [hlog, List.append_nil]⟩

theorem exec_push_of_error (hclock : e.clock.Keeps log) {intent : Intent} {job : Job}
    (hname : job.target.deviceName.hasText = true) {model : DeviceModel} (hm : job.model = .ok model) {f : Failure}
    (hp : job.backend.prepared intent model job.target = .error f) (j : Journal σ) :
    ∃ r j', (e.runJob intent false job).exec j = (.ok r, j') ∧
      r.untimed = resultOf job (.int 0) none (.error f) ∧ log j'.world = log j.world ++ [] := by
  have htry : ∀ i, ∃ i', (e.tryJob intent false model job).exec i = (.ok (none, .error f), i') ∧
      log i'.world = log i.world ++ [] := by
    intro i
    obtain ⟨i', hi, hw⟩ := exec_pushJob_of_error hp i
    exact ⟨i', hi, by rw [hw, List.append_nil]⟩
  exact exec_runJob_of_ok hclock hname hm htry j

theorem exec_push_of_ok (hc : e.connector.Obliges log) (hclock : e.clock.Keeps log) {intent : Intent}
    {job : Job} (hname : job.target.deviceName.hasText = true) {model : DeviceModel}
    (hm : job.model = .ok model) {p : Plugin} {text : String}
    (hp : job.backend.prepared intent model job.target = .ok (p, text)) (j : Journal σ) :
    ∃ r j', (e.runJob intent false job).exec j = (.ok r, j') ∧
      r.untimed = resultOf job (.int 0) (some p.name) (.ok none) ∧
      log j'.world = log j.world ++ SessionEvent.session job.target text := by
  have htry : ∀ i, ∃ i', (e.tryJob intent false model job).exec i = (.ok (some p.name, .ok none), i') ∧
      log i'.world = log i.world ++ SessionEvent.session job.target text :=
    exec_pushJob_of_ok hc hp
  exact exec_runJob_of_ok hclock hname hm htry j

/-! ## Agreement -/

/-- A dry run and a push of a job agree, and so does every rendering.  Either there is a payload, the
same for all, and the push sends it in the one session that it opens; or there is an error, of the same
kind for all, and the push opens no session. -/
structure Agree (s : Schedule) (job : Job) (dry push : TargetResult) (events : List SessionEvent) :
    Prop where
  status : dry.status = push.status
  plugin : dry.plugin = push.plugin
  error : dry.error = push.error
  errorKind : dry.errorKind = push.errorKind
  ending :
    (∃ text, dry.status = .success ∧ dry.payload = some text ∧
      events = SessionEvent.session job.target text ∧
      ∀ {τ : Type} (x : Action τ String), Renders s job x → x.Quiet (.ok text)) ∨
    ∃ kind : ErrorKind, dry.status = .failed ∧ dry.errorKind = some kind.name ∧ events = [] ∧
      ∀ {τ : Type} (x : Action τ String), Renders s job x →
        ∃ err : RolloutError, err.kind = kind ∧ x.Quiet (.error (.error err))

variable {s : Schedule} {job : Job} {model : DeviceModel}

theorem Agree.of_untimed {dry push : TargetResult} {events : List SessionEvent}
    (h : Agree s job dry.untimed push.untimed events) : Agree s job dry push events :=
  ⟨h.status, h.plugin, h.error, h.errorKind, h.ending⟩

/-- Without the modules of the device, all fail as the store does. -/
theorem Agree.of_unknown (hname : job.target.deviceName.hasText = true) {err : RolloutError}
    (hm : job.model = .error err) :
    Agree s job (modelFailure job err) (modelFailure job err) [] := by
  refine ⟨rfl, rfl, rfl, rfl, .inr ⟨err.kind, rfl, rfl, rfl, ?_⟩⟩
  intro τ x hx
  exact ⟨err, rfl, hx.quiet_of_unknown hname hm⟩

/-- Without a plugin, all fail with the same error. -/
theorem Agree.of_unserved (hname : job.target.deviceName.hasText = true) {err : RolloutError}
    (hm : job.model = .ok model)
    (rendered : ∀ target, job.backend.rendered (.schedule s) model target = .error (.error err)) :
    Agree s job (resultOf job (.int 0) none (.error (.error err)))
      (resultOf job (.int 0) none (.error (.error err))) [] := by
  refine ⟨rfl, rfl, rfl, rfl, .inr ⟨err.kind, rfl, rfl, rfl, ?_⟩⟩
  intro τ x hx
  obtain ⟨target, -, -, hquiet⟩ := hx.quiet_of_known hname hm
  exact ⟨err, rfl, rendered target ▸ hquiet⟩

theorem givenOr_some {name : String} (h : name.isEmpty = false) (other : Option String) :
    givenOr (some name) other = some name := by
  simp [givenOr, h]

/-- When the schedule is not mapped, the dry run names the plugin it has selected, and the push the one
that the error names. -/
theorem Agree.of_unmapped (hname : job.target.deviceName.hasText = true) {p : Plugin}
    {err : Target → RolloutError} {kind : ErrorKind} (hm : job.model = .ok model)
    (hplugin : p.name.isEmpty = false)
    (stated : ∀ target, (err target).kind = kind ∧ (err target).plugin = some p.name)
    (rendered : ∀ target, target.deviceName.hasText = true →
      job.backend.rendered (.schedule s) model target = .error (.error (err target))) :
    Agree s job (resultOf job (.int 0) (some p.name) (.error (.error (err job.target))))
      (resultOf job (.int 0) none (.error (.error (err job.target)))) [] := by
  obtain ⟨hkind, hnamed⟩ := stated job.target
  refine ⟨rfl, ?_, rfl, rfl, .inr ⟨kind, rfl, ?_, rfl, ?_⟩⟩
  · change givenOr (some p.name) (err job.target).plugin = givenOr none (err job.target).plugin
    rw [givenOr_some hplugin, hnamed]
    rfl
  · change some (err job.target).kind.name = some kind.name
    rw [hkind]
  · intro τ x hx
    obtain ⟨target, -, htarget, hquiet⟩ := hx.quiet_of_known hname hm
    exact ⟨err target, (stated target).1, rendered target htarget ▸ hquiet⟩

/-- When there is a payload, it depends on the port alone, so that all have the same. -/
theorem Agree.of_payload (hname : job.target.deviceName.hasText = true) {p : Plugin}
    {text : String → String} (hm : job.model = .ok model)
    (rendered : ∀ target,
      job.backend.rendered (.schedule s) model target = .ok (text target.interface)) :
    Agree s job (resultOf job (.int 0) (some p.name) (.ok (some (text job.target.interface))))
      (resultOf job (.int 0) (some p.name) (.ok none))
      (SessionEvent.session job.target (text job.target.interface)) := by
  refine ⟨rfl, rfl, rfl, rfl, .inl ⟨_, rfl, rfl, rfl, ?_⟩⟩
  intro τ x hx
  obtain ⟨target, hinterface, -, hquiet⟩ := hx.quiet_of_known hname hm
  rw [← hinterface]
  exact rendered target ▸ hquiet

/-- A dry run, a rendering and a push of a job come to the same where all sessions succeed and everything
that is told of the schedule and of the device has a text.  A dry run and a rendering open no session. -/
theorem dry_run_and_push_agree (hc : e.connector.Obliges log) (hclock : e.clock.Keeps log) (s : Schedule)
    (job : Job) (hb : job.backend.HoldsVariants) (htells : job.backend.Tells s)
    (hname : job.target.deviceName.hasText = true) (j₁ j₂ : Journal σ) :
    ∃ dry j₁' push j₂' events, (e.runJob (.schedule s) true job).exec j₁ = (.ok dry, j₁') ∧
      (e.runJob (.schedule s) false job).exec j₂ = (.ok push, j₂') ∧
      log j₁'.world = log j₁.world ∧ log j₂'.world = log j₂.world ++ events ∧
      Agree s job dry push events := by
  cases hm : job.model with
  | error err =>
    have hrun : ∀ dryRun j, (e.runJob (.schedule s) dryRun job).exec j =
        (.ok (modelFailure job err), j) := by
      intro dryRun j
      rw [runJob, hm]
      rfl
    exact ⟨_, j₁, _, j₂, [], hrun true j₁, hrun false j₂, rfl, by simp, .of_unknown hname hm⟩
  | ok model =>
    obtain ⟨dry, j₁', hdry, hdryres, hlog₁⟩ := exec_dryRun hclock (.schedule s) hname hm j₁
    cases hb.way htells model with
    | unserved err selected rendered prepared =>
      obtain ⟨push, j₂', hpush, hpushres, hlog₂⟩ :=
        exec_push_of_error hclock hname hm (prepared job.target) j₂
      have hselected : job.backend.selected (Intent.schedule s).feature model = _ := selected
      refine ⟨dry, j₁', push, j₂', [], hdry, hpush, hlog₁, hlog₂, .of_untimed ?_⟩
      rw [hdryres, hpushres, dryEnding_of_error hselected]
      exact .of_unserved hname hm rendered
    | unmapped p err kind selected name stated rendered prepared =>
      obtain ⟨push, j₂', hpush, hpushres, hlog₂⟩ :=
        exec_push_of_error hclock hname hm (prepared job.target hname) j₂
      have hselected : job.backend.selected (Intent.schedule s).feature model = _ := selected
      refine ⟨dry, j₁', push, j₂', [], hdry, hpush, hlog₁, hlog₂, .of_untimed ?_⟩
      rw [hdryres, hpushres, dryEnding_of_ok hselected, rendered job.target hname]
      exact .of_unmapped hname hm name stated rendered
    | payload p text selected rendered prepared =>
      obtain ⟨push, j₂', hpush, hpushres, hlog₂⟩ :=
        exec_push_of_ok hc hclock hname hm (prepared job.target hname) j₂
      have hselected : job.backend.selected (Intent.schedule s).feature model = _ := selected
      refine ⟨dry, j₁', push, j₂', _, hdry, hpush, hlog₁, hlog₂, .of_untimed ?_⟩
      rw [hdryres, hpushres, dryEnding_of_ok hselected, rendered job.target]
      exact .of_payload hname hm rendered

/-- A device with the modules of the standard plugin and a schedule of one slot: the dry run writes what
the push sends in its one session. -/
theorem dry_run_and_push_agree_standard :
    let e : Engine (List SessionEvent) := still .logging .empty fun _ => .ok ⟨[]⟩
    let target : Target := ⟨{ address := .str "10.0.0.1" }, .str "", "p1", .str "sw"⟩
    let job : Job :=
      ⟨.str "sw", target, ⟨"netconf", [("qbv", [.standard, .legacy])]⟩, .ok ⟨Plugin.standard.required⟩⟩
    let s : Schedule := ⟨"s", 0, 1000000, .enabled, [⟨0, 1000000, [255], none, .null⟩], none⟩
    ∃ dry j₁ push j₂ text, (e.runJob (.schedule s) true job).exec ⟨[], [], []⟩ = (.ok dry, j₁) ∧
      (e.runJob (.schedule s) false job).exec ⟨[], [], []⟩ = (.ok push, j₂) ∧
      dry.status = .success ∧ push.status = .success ∧ dry.payload = some text ∧ j₁.world = [] ∧
      j₂.world = [.opened target, .edited target text, .closed target] := by
  intro e target job s
  have hb : job.backend.HoldsVariants := by
    intro group hgroup p hp
    obtain rfl := List.mem_singleton.1 hgroup
    rcases List.mem_pair.1 hp with rfl | rfl
    · exact ⟨_, .inl rfl⟩
    · exact ⟨_, .inr rfl⟩
  have htells : job.backend.Tells s := by
    intro group hgroup p hp
    obtain rfl := List.mem_singleton.1 hgroup
    rcases List.mem_pair.1 hp with rfl | rfl <;> exact ⟨rfl, rfl⟩
  have hclock : e.clock.Keeps id := fun j => ⟨_, j, rfl, rfl⟩
  have hfilter : [Plugin.standard, .legacy].filter (·.isSupportedBy ⟨Plugin.standard.required⟩) =
      [.standard] := by decide
  have hselected : job.backend.selected (.str Schedule.feature) ⟨Plugin.standard.required⟩ =
      .ok .standard :=
    Backend.selected_of_filter hfilter
  have hrendered : ∃ text, job.backend.rendered (.schedule s) ⟨Plugin.standard.required⟩ target =
      .ok text := by
    have hv : Plugin.standard.IsVariant := ⟨Plugin.standard.required, .inl rfl⟩
    rcases hv.mapped_cases s with ⟨t, hwritten, ht⟩ | ⟨err, herr⟩ | ⟨-, herr⟩
    · obtain ⟨text, hs⟩ := hv.payload_ok hwritten
      exact ⟨_, by rw [Backend.rendered_of_selected hselected, ht]; exact hs target⟩
    · cases herr
    · cases herr
  have hobliges : e.connector.Obliges id := Connector.logging_obliges
  obtain ⟨dry, j₁, push, j₂, events, hdry, hpush, hlog₁, hlog₂, hagree⟩ :=
    dry_run_and_push_agree hobliges hclock s job hb htells rfl ⟨[], [], []⟩ ⟨[], [], []⟩
  rcases hagree.ending with ⟨text, hstatus, hpayload, rfl, -⟩ | ⟨kind, -, -, -, hfails⟩
  · exact ⟨dry, j₁, push, j₂, text, hdry, hpush, hstatus, hagree.status ▸ hstatus, hpayload, hlog₁, hlog₂⟩
  · obtain ⟨text, htext⟩ := hrendered
    obtain ⟨err, -, hquiet⟩ := hfails _ (Renders.backend rfl)
    have hrender := job.backend.quiet_render (σ := Unit) (.schedule s) ⟨Plugin.standard.required⟩ target
    rw [htext] at hrender
    cases (hrender ⟨[], [], ()⟩).1.symm.trans (hquiet ⟨[], [], ()⟩).1

end Engine

end GateRollout
