import GateRollout.Proofs.Rollout.FanOut

/-!
# What a rollout leaves behind

Others see of a rollout what happens in its sessions, and the lines of its audit log.  Whatever the
sessions do, every port gets its turn, and its result tells what happened there.  The lines come last.
They tell all results, unless JSON has no text for the name of a device; and even when they do, the
rollout returns only when the names of the devices that were skipped can be joined.
-/

namespace GateRollout

variable {σ : Type}

/-- What others see of a rollout. -/
inductive RolloutEvent where
  | session (event : SessionEvent)
  /-- A line was written to the audit log. -/
  | audited (line : String)

namespace Action

variable {α β ε : Type} {x : Action σ α} {b : β}

/-- An action that succeeds adds an event to a trace, and one that fails adds none. -/
def Adds (trace : σ → List ε) (event : ε) (x : Action σ α) : Prop :=
  ∀ j, trace (x.exec j).2.world = trace j.world ++ if (x.exec j).1.isOk then [event] else []

theorem Adds.bind_pure {trace : σ → List ε} {event : ε} (h : x.Adds trace event) (b : β) :
    (x >>= fun _ => pure b).Adds trace event := by
  intro j
  have hj := h j
  rw [exec_bind]
  rcases hx : x.exec j with ⟨_ | _, j'⟩
  all_goals
    rw [hx] at hj
    exact hj

theorem eq_of_bind_pure {b' : β} {j j' : Journal σ}
    (h : (x >>= fun _ => pure b).exec j = (.ok b', j')) : b' = b := by
  rw [exec_bind] at h
  rcases hx : x.exec j with ⟨_ | _, i⟩
  all_goals
    rw [hx] at h
    cases h
  rfl

end Action

/-! ## Sessions -/

/-- What happened when a target was to be edited is a part of what happens in a session, and the target
counts as edited just when the edit was accepted and the session was closed. -/
structure SessionEvent.Accounts (target : Target) (success : Bool) (events : List SessionEvent) :
    Prop where
  within : ∃ payload, events.Sublist (SessionEvent.session target payload)
  success_iff : success = true ↔ (∃ payload, .edited target payload ∈ events) ∧ .closed target ∈ events

theorem SessionEvent.Accounts.nothing (target : Target) : Accounts target false [] :=
  ⟨⟨"", List.nil_sublist _⟩, by simp⟩

theorem SessionEvent.Accounts.opened (target : Target) (payload : String) (edited closed : Bool) :
    Accounts target (edited && closed)
      (.opened target :: (if edited then [.edited target payload] else []) ++
        if closed then [.closed target] else []) := by
  refine ⟨⟨payload, ?_⟩, ?_⟩
  · cases edited <;> cases closed <;> simp [SessionEvent.session]
  · cases edited <;> cases closed <;> simp

namespace Connector

/-- A trace tells of every session that is opened, every edit that is accepted and every session that is
closed.  What the sessions do is not restricted otherwise. -/
structure Traced (c : Connector σ) (trace : σ → List RolloutEvent) : Prop where
  opens : ∀ target, (c.connect target).Adds trace (.session (.opened target))
  edits : ∀ target j s j', (c.connect target).exec j = (.ok s, j') → ∀ payload,
    (s.edit payload).Adds trace (.session (.edited target payload))
  closes : ∀ target j s j', (c.connect target).exec j = (.ok s, j') →
    s.close.Adds trace (.session (.closed target))

variable {c : Connector σ} {trace : σ → List RolloutEvent}

/-- What a trace tells of editing a target once accounts for what came of it. -/
theorem Traced.exec_editOnce (h : c.Traced trace) (target : Target) (payload : String) (j : Journal σ) :
    ∃ x events j', (c.editOnce target payload).exec j = (x, j') ∧
      trace j'.world = trace j.world ++ events.map .session ∧
      SessionEvent.Accounts target x.isOk events := by
  rw [editOnce]
  have hopens := h.opens target j
  rcases hc : (c.connect target).exec j with ⟨f | s, j₁⟩
  · rw [hc] at hopens
    exact ⟨_, [], j₁, Action.exec_bind_error hc _, hopens, .nothing target⟩
  · rw [hc] at hopens
    have hedits := h.edits target j s j₁ hc payload j₁
    have hcloses := h.closes target j s j₁ hc ((s.edit payload).exec j₁).2
    rw [Action.exec_bind_ok hc, exec_closingAfter]
    -- the session is closed whatever came of the edit, so both are told of
    rcases hedit : (s.edit payload).exec j₁ with ⟨r, j₂⟩
    rw [hedit] at hedits hcloses
    rcases hclose : s.close.exec j₂ with ⟨r', j₃⟩
    rw [hclose] at hcloses
    have haccounts := SessionEvent.Accounts.opened target payload r.isOk r'.isOk
    have hok : (r.isOk && r'.isOk) = (r' >>= fun _ => r).isOk := by
      cases r <;> cases r' <;> rfl
    refine ⟨_, _, j₃, rfl, ?_, hok ▸ haccounts⟩
    rw [hcloses, hedits, hopens]
    cases r <;> cases r' <;> simp [Except.isOk, Except.toBool]

/-- Do as a script says, and note that it was done. -/
def noted (x : Except Failure Unit) (event : SessionEvent) : Action (List RolloutEvent) Unit := do
  Action.ofExcept x
  Action.modifyWorld (· ++ [.session event])

theorem noted_adds (x : Except Failure Unit) (event : SessionEvent) :
    (noted x event).Adds id (.session event) := by
  intro j
  cases x with
  | ok _ => rfl
  | error f => exact (List.append_nil _).symm

/-- The session that goes by a script and notes what happens in it. -/
def notedSession (script : SessionScript) (target : Target) : Session (List RolloutEvent) where
  edit payload := noted (script.edits target payload) (.edited target payload)
  close := noted (script.closes target) (.closed target)

/-- The connector that does nothing but go by a script and note what happens. -/
def tracing (script : SessionScript) : Connector (List RolloutEvent) where
  connect target := do
    noted (script.opens target) (.opened target)
    return notedSession script target

theorem tracing_traced (script : SessionScript) : (tracing script).Traced id := by
  refine ⟨?_, ?_, ?_⟩
  · intro target
    exact (noted_adds _ _).bind_pure (notedSession script target)
  · intro target j s j' h payload
    rw [Action.eq_of_bind_pure (b := notedSession script target) h]
    exact noted_adds _ _
  · intro target j s j' h
    rw [Action.eq_of_bind_pure (b := notedSession script target) h]
    exact noted_adds _ _

end Connector

namespace Engine

variable {e : Engine σ} {trace : σ → List RolloutEvent}

/-! ## Jobs -/

/-- A result is named after the target of a job and tells what happened there: nothing when the payload
is only written, and else whether the target was edited. -/
structure Tells (dryRun : Bool) (job : Job) (x : TargetResult × List SessionEvent) : Prop where
  nodeId : x.1.nodeId = job.nodeId
  interface : x.1.interface = job.target.interface
  dry : dryRun = true → x.2 = []
  pushed : dryRun = false → SessionEvent.Accounts job.target x.1.isSuccess x.2

theorem exec_pushJob_traced (h : e.connector.Traced trace) (intent : Intent) (model : DeviceModel)
    (job : Job) (j : Journal σ) :
    ∃ x events j', (e.pushJob intent model job).exec j = (.ok x, j') ∧
      trace j'.world = trace j.world ++ events.map .session ∧
      SessionEvent.Accounts job.target x.2.isOk events := by
  obtain ⟨i, hi, hexec⟩ := job.backend.push_leads e.connector intent model job.target j
  rw [pushJob, Action.exec_bind_ok (Action.exec_attempt _ j), hexec, ← hi]
  cases job.backend.prepared intent model job.target with
  | error f => exact ⟨_, [], i, rfl, (List.append_nil _).symm, .nothing _⟩
  | ok prepared =>
    obtain ⟨p, payload⟩ := prepared
    obtain ⟨x, events, i', hedit, htrace, haccounts⟩ := h.exec_editOnce job.target payload i
    simp only [Plugin.deliver, Action.exec_bind, Backend.exec_within, hedit]
    cases x with
    | ok _ => exact ⟨_, events, _, rfl, htrace, haccounts⟩
    | error f => exact ⟨_, events, _, rfl, htrace, haccounts⟩

/-- Trying a job does not fail, and what comes of it is what a trace tells of it. -/
theorem exec_tryJob_traced (h : e.connector.Traced trace) (intent : Intent) (dryRun : Bool)
    (model : DeviceModel) (job : Job) (j : Journal σ) :
    ∃ x events j', (e.tryJob intent dryRun model job).exec j = (.ok x, j') ∧
      trace j'.world = trace j.world ++ events.map .session ∧ (dryRun = true → events = []) ∧
      (dryRun = false → SessionEvent.Accounts job.target x.2.isOk events) := by
  cases dryRun with
  | true =>
    obtain ⟨j', hexec, hw⟩ := (quiet_renderJob intent model job).exec_eq j
    exact ⟨_, [], j', hexec, by rw [hw, List.map_nil, List.append_nil], fun _ => rfl, nofun⟩
  | false =>
    obtain ⟨x, events, j', hexec, htrace, haccounts⟩ := exec_pushJob_traced h intent model job j
    exact ⟨x, events, j', hexec, htrace, nofun, fun _ => haccounts⟩

/-- A job whose device has a name does not fail, and its result tells what happened at its target. -/
theorem exec_runJob_traced (h : e.connector.Traced trace) (hclock : e.clock.Keeps trace) (intent : Intent)
    (dryRun : Bool) {job : Job} (hname : job.IsNamed) (j : Journal σ) :
    ∃ r events j', (e.runJob intent dryRun job).exec j = (.ok r, j') ∧
      trace j'.world = trace j.world ++ events.map .session ∧ Tells dryRun job (r, events) := by
  rw [runJob]
  cases hm : job.model with
  | error err =>
    exact ⟨modelFailure job err, [], j, rfl, (List.append_nil _).symm,
      rfl, rfl, fun _ => rfl, fun _ => .nothing _⟩
  | ok model =>
    have htry := exec_tryJob_traced h intent dryRun model job
    have hsucceeds : (e.tryJob intent dryRun model job).Succeeds := by
      intro i
      obtain ⟨x, events, i', hexec, -⟩ := htry i
      exact ⟨x, i', hexec⟩
    obtain ⟨i, x, i', r, j', hi, hx, hr, hres, hj⟩ :=
      exec_runKnown hclock intent dryRun model (hname model hm) hsucceeds j
    obtain ⟨x', events, i'', hx', htrace, hdry, hpushed⟩ := htry i
    obtain ⟨rfl, rfl⟩ : x = x' ∧ i' = i'' := by
      rw [hx] at hx'
      exact ⟨Except.ok.inj (Prod.mk.inj hx').1, (Prod.mk.inj hx').2⟩
    -- a result and the same without its time agree in all that is told of it
    have huntimed : r.nodeId = r.untimed.nodeId ∧ r.interface = r.untimed.interface ∧
        r.isSuccess = r.untimed.isSuccess := ⟨rfl, rfl, rfl⟩
    obtain ⟨hid, hinterface⟩ := resultOf_names job (.int 0) x.1 x.2
    rw [hres, hid, hinterface, isSuccess_resultOf] at huntimed
    refine ⟨r, events, j', hr, by rw [hj, htrace, hi], huntimed.1, huntimed.2.1, hdry, ?_⟩
    rw [huntimed.2.2]
    exact hpushed

/-! ## The audit log -/

/-- A trace tells what happens in the sessions of an engine and what is written to its audit log, and the
clocks leave it as it is. -/
structure Traced (e : Engine σ) (trace : σ → List RolloutEvent) : Prop where
  sessions : e.connector.Traced trace
  clock : e.clock.Keeps trace
  now : e.now.Keeps trace
  audit : ∀ line j, ∃ j', (e.audit line).exec j = (.ok (), j') ∧
    trace j'.world = trace j.world ++ [.audited line]

/-- A line is the audit record of a result. -/
def Records (s : Schedule) (options : RunOptions) (r : TargetResult) (line : String) : Prop :=
  ∃ now record, auditRecord now (.schedule s) options r = .ok record ∧ record.toJson = .ok line

/-- Record a result in the audit log. -/
def auditResult (e : Engine σ) (intent : Intent) (options : RunOptions) (r : TargetResult) :
    Action σ Unit := do
  let record ← Action.ofExcept (auditRecord (← e.now) intent options r)
  e.audit (← Action.ofExcept record.toJson)

theorem auditAll_cons (e : Engine σ) (intent : Intent) (options : RunOptions) (r : TargetResult)
    (results : List TargetResult) :
    e.auditAll intent options (r :: results) =
      (e.auditResult intent options r >>= fun _ => e.auditAll intent options results) := rfl

variable {s : Schedule} {options : RunOptions}

/-- A result gets its line unless the name of its device cannot be written. -/
theorem exec_auditResult (h : e.Traced trace) (hsum : options.checksum.IsPlain) (r : TargetResult)
    (j : Journal σ) :
    (r.nodeId.IsWritable ∧ ∃ line j', Records s options r line ∧
      (e.auditResult (.schedule s) options r).exec j = (.ok (), j') ∧
      trace j'.world = trace j.world ++ [.audited line]) ∨
    (¬r.nodeId.IsWritable ∧ ∃ f j', Json.IsWriteFault f ∧
      (e.auditResult (.schedule s) options r).exec j = (.error (.fault f), j') ∧
      trace j'.world = trace j.world) := by
  obtain ⟨now, j₁, hnow, htrace₁⟩ := h.now j
  obtain ⟨record, hrecord, hline⟩ := auditRecord_line now s options r hsum
  rw [auditResult, Action.exec_bind_ok hnow, hrecord, Action.exec_bind_ok (Action.exec_ofExcept _ j₁)]
  rcases hline with ⟨hid, line, hline⟩ | ⟨hid, f, hf, hline⟩
  · obtain ⟨j', haudit, htrace⟩ := h.audit line j₁
    refine .inl ⟨hid, line, j', ⟨now, record, hrecord, hline⟩, ?_, by rw [htrace, htrace₁]⟩
    rw [hline, Action.exec_bind_ok (Action.exec_ofExcept _ j₁), haudit]
  · refine .inr ⟨hid, f, j₁, hf, ?_, htrace₁⟩
    rw [hline, Action.exec_bind_error (Action.exec_ofExcept _ j₁)]

/-- Every result gets its line, in order, unless the name of some device cannot be written. -/
theorem exec_auditAll (h : e.Traced trace) (hsum : options.checksum.IsPlain)
    (results : List TargetResult) (j : Journal σ) :
    ∃ x lines j', (e.auditAll (.schedule s) options results).exec j = (x, j') ∧
      trace j'.world = trace j.world ++ lines.map .audited ∧
      (((∀ r ∈ results, r.nodeId.IsWritable) ∧ x = .ok () ∧
          List.Forall₂ (Records s options) results lines) ∨
        (¬(∀ r ∈ results, r.nodeId.IsWritable) ∧ ∃ f, Json.IsWriteFault f ∧ x = .error (.fault f))) := by
  induction results generalizing j with
  | nil => exact ⟨_, [], j, rfl, (List.append_nil _).symm, .inl ⟨nofun, rfl, .nil⟩⟩
  | cons r results ih =>
    rw [auditAll_cons, List.forall_mem_cons]
    rcases exec_auditResult h hsum r j with
      ⟨hid, line, j₁, hrecords, hexec, htrace₁⟩ | ⟨hid, f, j₁, hf, hexec, htrace₁⟩
    · obtain ⟨x, lines, j', hrest, htrace, hx⟩ := ih j₁
      refine ⟨x, line :: lines, j', by rw [Action.exec_bind_ok hexec, hrest],
        by rw [htrace, htrace₁, List.append_assoc]; rfl, ?_⟩
      rcases hx with ⟨hids, rfl, hlines⟩ | ⟨hids, f, hf, rfl⟩
      · exact .inl ⟨⟨hid, hids⟩, rfl, .cons hrecords hlines⟩
      · exact .inr ⟨fun hall => hids hall.2, f, hf, rfl⟩
    · exact ⟨_, [], j₁, Action.exec_bind_error hexec _, by rw [htrace₁, List.map_nil, List.append_nil],
        .inr ⟨fun hall => hid hall.1, f, hf, rfl⟩⟩

/-! ## The rollout -/

/-- A rollout can be reported: the names of the devices that are served have a place in the audit log,
and the names of the others can be joined to a line. -/
structure CanReport (e : Engine σ) (nodes : List Node) : Prop where
  targets : ∀ target ∈ e.targets nodes, target.1.id.IsWritable
  unserved : ∀ v ∈ e.unserved nodes, ∃ s, v = .str s

/-- Texts can be reported. -/
theorem canReport_of_texts {nodes : List Node} (h : ∀ node ∈ nodes, ∃ s, node.id = .str s) :
    e.CanReport nodes where
  targets := by
    intro target htarget
    obtain ⟨t, ht⟩ := h _ (mem_of_mem_targets htarget)
    rw [ht]
    exact (Value.IsPlain.str t).isWritable
  unserved := by
    intro v hv
    obtain ⟨node, hnode, rfl⟩ := List.mem_map.1 hv
    exact h node (List.mem_of_mem_filter hnode)

/-- A result is named after a port of a device and tells what happened there: nothing when payloads are
only written, and else whether the port was configured. -/
structure Reports (dryRun : Bool) (target : Node × Port) (x : TargetResult × List SessionEvent) : Prop where
  nodeId : x.1.nodeId = target.1.id
  interface : x.1.interface = target.2.name
  dry : dryRun = true → x.2 = []
  pushed : dryRun = false →
    ∃ secret, SessionEvent.Accounts (targetOf target.1 secret target.2) x.1.isSuccess x.2

theorem Tells.reports {models : Value → Except RolloutError DeviceModel} {dryRun : Bool}
    {target : Node × Port} {job : Job} {x : TargetResult × List SessionEvent} (h : Tells dryRun job x)
    (hjob : e.IsJob models target job) : Reports dryRun target x := by
  obtain ⟨backend, secret, -, -, rfl⟩ := hjob
  exact ⟨h.nodeId, h.interface, h.dry, fun hpush => ⟨secret, h.pushed hpush⟩⟩

theorem exec_conclude_traced (h : e.Traced trace) (hsum : options.checksum.IsPlain)
    (skipped : List Value) (results : List TargetResult) (j : Journal σ) :
    ∃ x lines j', (e.conclude (.schedule s) options skipped results).exec j = (x, j') ∧
      trace j'.world = trace j.world ++ lines.map .audited ∧
      (((∀ r ∈ results, r.nodeId.IsWritable) ∧ (∀ v ∈ skipped, ∃ t, v = .str t) ∧
          x = .ok (.ofResults results skipped options.dryRun) ∧
          List.Forall₂ (Records s options) results lines) ∨
        (¬((∀ r ∈ results, r.nodeId.IsWritable) ∧ ∀ v ∈ skipped, ∃ t, v = .str t) ∧
          ∃ f, Json.IsWriteFault f ∧ x = .error (.fault f))) := by
  obtain ⟨x, lines, j₁, haudit, htrace₁, hx⟩ := exec_auditAll (s := s) h hsum results j
  rcases hx with ⟨hids, rfl, hlines⟩ | ⟨hids, f, hf, rfl⟩
  · obtain ⟨j₂, hlogs, hw⟩ := (Action.quiet_logAll ((Outcome.ofResults results skipped
      options.dryRun).failures.map failureRecord)).exec_eq j₁
    have htrace : trace j₂.world = trace j.world ++ lines.map .audited := by rw [hw, htrace₁]
    rw [conclude, Action.exec_bind_ok haudit, Action.exec_bind_ok hlogs]
    rcases Outcome.summary_cases results skipped options.dryRun with
      ⟨hskipped, text, htext⟩ | ⟨hskipped, text, htext⟩
    · rw [htext]
      exact ⟨_, lines, _, rfl, htrace, .inl ⟨hids, hskipped, rfl, hlines⟩⟩
    · rw [htext]
      exact ⟨_, lines, _, rfl, htrace, .inr ⟨fun hall => hskipped hall.2, _, .inl rfl, rfl⟩⟩
  · exact ⟨_, lines, j₁, Action.exec_bind_error haudit _, htrace₁, .inr ⟨fun hall => hids hall.1, f, hf, rfl⟩⟩

/-- A rollout can be carried out: the devices have names, all but those of which nothing is to be told, as they
are served, have no ports, and their modules are known. -/
def CanRun (e : Engine σ) (models : Value → Except RolloutError DeviceModel) (nodes : List Node) : Prop :=
  ∀ node ∈ nodes, node.id.hasText = true ∨
    e.serves node = true ∧ node.ports = [] ∧ ∃ model, models node.id = .ok model

theorem CanRun.names {models : Value → Except RolloutError DeviceModel} {nodes : List Node}
    (h : e.CanRun models nodes) : ∀ node ∈ nodes, e.Names models node := fun node hnode =>
  (h node hnode).imp_right fun hn => ⟨hn.1, hn.2.2⟩

/-- Where a rollout can be carried out, the targets have names. -/
theorem CanRun.hasText_deviceName {models : Value → Except RolloutError DeviceModel} {nodes : List Node}
    (h : e.CanRun models nodes) (haddress : ∀ node ∈ nodes, node.management.address.hasText = true)
    {jobs : List Job} (hjobs : List.Forall₂ (e.IsJob models) (e.targets nodes) jobs) :
    ∀ job ∈ jobs, job.target.deviceName.hasText = true := by
  intro job hjob
  obtain ⟨⟨node, port⟩, htarget, backend, secret, -, -, rfl⟩ := forall₂_exists_left hjobs job hjob
  obtain ⟨hnode, -, hport⟩ := mem_targets.1 htarget
  have hid : node.id.hasText = true :=
    (h node hnode).resolve_right fun hn => List.ne_nil_of_mem hport hn.2.1
  exact Engine.hasText_deviceName hid (.inr (haddress node hnode)) secret port

/-- Whatever the sessions do, where a rollout can be carried out, every port of a device that is served gets
its turn, and its result tells what happened there.  The rollout returns with all results and their lines in
the audit log when the names of the devices can be reported, and else it fails after all that. -/
theorem exec_apply_traced (h : e.Traced trace) {models : Value → Except RolloutError DeviceModel}
    {workers : Int} (hw : e.settings.maxWorkers = .int workers) (hpos : 1 ≤ workers) (nodes : List Node)
    (hknows : ∀ node ∈ nodes, e.Knows models trace node.id)
    (hp : ∀ node ∈ nodes, ∃ p, node.management.protocol = .str p)
    (haddress : ∀ node ∈ nodes, node.management.address.hasText = true) (hcan : e.CanRun models nodes)
    (htold : ∀ node ∈ nodes, e.serves node = true → node.management.TellsSecret)
    (hsum : options.checksum.IsPlain) (j : Journal σ) :
    ∃ x xs lines j', (e.apply (pure false) (.schedule s) ⟨nodes⟩ options).exec j = (x, j') ∧
      List.Forall₂ (Reports options.dryRun) (e.targets nodes) xs ∧
      trace j'.world =
        trace j.world ++ (xs.flatMap Prod.snd).map .session ++ lines.map .audited ∧
      ((e.CanReport nodes ∧
          x = .ok (.ofResults (xs.map Prod.fst) (e.unserved nodes) options.dryRun) ∧
          List.Forall₂ (Records s options) (xs.map Prod.fst) lines) ∨
        (¬e.CanReport nodes ∧ ∃ f, Json.IsWriteFault f ∧ x = .error (.fault f))) := by
  obtain ⟨jobs, j₁, hbuild, hjobs, htrace₁⟩ := exec_buildJobs_keeps nodes hknows hp hcan.names htold j
  rw [apply_eq, Action.exec_bind_ok hbuild]
  dsimp only
  rw [Action.exec_bind_ok (Action.exec_log _ _ _), hw, Executor.run_eq_runAll hpos]
  obtain ⟨xs, j₂, hrun, htrace₂, htells⟩ := exec_runAll_adds (fun job hjob j =>
    exec_runJob_traced h.sessions h.clock (.schedule s) options.dryRun
      (fun _ _ => hcan.hasText_deviceName haddress hjobs job hjob) j) _
  rw [Action.exec_bind_ok hrun]
  obtain ⟨x, lines, j', hconclude, htrace, hx⟩ :=
    exec_conclude_traced (s := s) h hsum (e.unserved nodes) (xs.map Prod.fst) j₂
  have hreports : List.Forall₂ (Reports options.dryRun) (e.targets nodes) xs :=
    (forall₂_comp hjobs htells).imp fun target x ⟨job, hjob, hx⟩ => hx.reports hjob
  -- the audit log looks at the names of the results, which are those of the targets
  have hnames : (e.targets nodes).map (fun target => target.1.id) = xs.map fun x => x.1.nodeId := by
    rw [← List.forall₂_eq_eq_eq, List.forall₂_map_left_iff, List.forall₂_map_right_iff]
    exact hreports.imp fun _ _ hx => hx.nodeId.symm
  have hids : (∀ r ∈ xs.map Prod.fst, r.nodeId.IsWritable) ↔
      ∀ target ∈ e.targets nodes, target.1.id.IsWritable := by
    rw [List.forall_mem_map, ← List.forall_mem_map (f := fun target : Node × Port => target.1.id), hnames,
      List.forall_mem_map]
  refine ⟨x, xs, lines, j', hconclude, hreports, ?_, ?_⟩
  · rw [htrace, htrace₂, htrace₁]
  · rw [hids] at hx
    rcases hx with ⟨htargets, hunserved, hx, hlines⟩ | ⟨hn, hx⟩
    · exact .inl ⟨⟨htargets, hunserved⟩, hx, hlines⟩
    · exact .inr ⟨fun hcan => hn ⟨hcan.targets, hcan.unserved⟩, hx⟩

/-- A rollout that cannot be carried out fails. -/
theorem exec_apply_of_not_canRun {τ : Type} {view : σ → τ} (hclock : e.clock.Succeeds)
    {models : Value → Except RolloutError DeviceModel} {workers : Int}
    (hw : e.settings.maxWorkers = .int workers) (hpos : 1 ≤ workers) (nodes : List Node)
    (hknows : ∀ node ∈ nodes, e.Knows models view node.id)
    (hp : ∀ node ∈ nodes, ∃ p, node.management.protocol = .str p) (hcan : ¬e.CanRun models nodes)
    (htold : ∀ node ∈ nodes, e.serves node = true → node.management.TellsSecret) (j : Journal σ) :
    ∃ j', (e.apply (pure false) (.schedule s) ⟨nodes⟩ options).exec j = (.error .unwritten, j') := by
  by_cases hnames : ∀ node ∈ nodes, e.Names models node
  · -- the jobs are made, but the device of one of them has no name
    obtain ⟨jobs, j₁, hbuild, hjobs, -⟩ := exec_buildJobs_keeps nodes hknows hp hnames htold j
    refine exec_apply_of_nameless hclock hw hpos hbuild ?_
    rw [CanRun] at hcan
    push Not at hcan
    obtain ⟨node, hnode, hid, hunknown⟩ := hcan
    obtain ⟨hserves, hmodel⟩ := (hnames node hnode).resolve_left hid
    obtain ⟨port, hport⟩ := List.exists_mem_of_ne_nil _ fun hports =>
      let ⟨model, hm⟩ := hmodel
      hunknown hserves hports model hm
    obtain ⟨job, hjob, backend, secret, -, -, rfl⟩ :=
      forall₂_exists_left hjobs.flip (node, port) (mem_targets.2 ⟨hnode, hserves, hport⟩)
    refine ⟨_, hjob, fun hnamed => hid ?_⟩
    obtain ⟨model, hm⟩ := hmodel
    have hname := hnamed model hm
    rwa [deviceName_targetOf, if_pos (Value.isGiven_of_not_hasText hid)] at hname
  · push Not at hnames
    obtain ⟨node, hnode, hnot⟩ := hnames
    have hall : ∀ node ∈ nodes, ∀ j, (∃ own j', (e.jobsOf node).exec j = (.ok own, j')) ∨
        ∃ f j', f = Failure.unwritten ∧ (e.jobsOf node).exec j = (.error f, j') := by
      intro node hnode j
      by_cases hname : e.Names models node
      · rcases exec_jobsOf (hknows node hnode) (hp node hnode) hname j with
          ⟨-, j₁, hown, -⟩ | ⟨-, -, own, j₁, hown, -⟩ | ⟨hs, hn, -⟩
        · exact .inl ⟨_, j₁, hown⟩
        · exact .inl ⟨_, j₁, hown⟩
        · exact absurd (htold node hnode hs) hn
      · obtain ⟨j₁, hfails⟩ := exec_jobsOf_of_nameless (hknows node hnode) (hp node hnode) hname j
        exact .inr ⟨_, j₁, rfl, hfails⟩
    obtain ⟨_, j', rfl, hfails⟩ := exec_buildJobs_of_failing hall ⟨node, hnode, fun j =>
      let ⟨j₁, hfails⟩ := exec_jobsOf_of_nameless (hknows node hnode) (hp node hnode) hnot j
      ⟨_, j₁, rfl, hfails⟩⟩ j
    exact ⟨j', by rw [apply_eq, Action.exec_bind_error hfails]⟩

end Engine

end GateRollout
