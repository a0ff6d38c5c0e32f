import GateRollout.Proofs.Audit.Record
import GateRollout.Proofs.Rollout.Cancellation
import GateRollout.Proofs.Rollout.Job
import GateRollout.Proofs.Rollout.Outcome
import GateRollout.Proofs.Text.Numeral
import Mathlib.Data.List.Forall2

/-!
# Fan-out

A rollout goes to every port of every device that a backend serves.  The result of a port is the one it
has in a rollout to that port alone, whatever becomes of the others, and no failure of a target keeps
the rollout from returning.  Only a device without a password and without a text to look it up by does,
since passwords are looked up before there are any targets, and one whose name cannot be told.
-/

namespace GateRollout

variable {σ τ : Type}

theorem forall₂_comp {α β γ : Type} {R : α → β → Prop} {S : β → γ → Prop} {as : List α} {bs : List β}
    {cs : List γ} (h : List.Forall₂ R as bs) (h' : List.Forall₂ S bs cs) :
    List.Forall₂ (fun a c => ∃ b, R a b ∧ S b c) as cs := by
  induction h generalizing cs with
  | nil =>
    cases h'
    exact .nil
  | cons hR _ ih =>
    cases h' with
    | cons hS h' => exact .cons ⟨_, hR, hS⟩ (ih h')

theorem forall₂_exists_left {α β : Type} {R : α → β → Prop} {as : List α} {bs : List β}
    (h : List.Forall₂ R as bs) : ∀ b ∈ bs, ∃ a ∈ as, R a b := by
  induction h with
  | nil => simp
  | cons hR _ ih =>
    intro b hb
    rcases List.mem_cons.1 hb with rfl | hb
    · exact ⟨_, List.mem_cons_self, hR⟩
    · obtain ⟨a, ha, hab⟩ := ih b hb
      exact ⟨a, List.mem_cons_of_mem _ ha, hab⟩

/-- A device whose name and protocol are texts.  Where the name is empty, the device is told by its address,
which has to have a text. -/
structure Node.IsDeclared (node : Node) : Prop where
  id : ∃ s, node.id = .str s
  protocol : ∃ s, node.management.protocol = .str s
  address : node.id.isGiven = true ∨ node.management.address.hasText = true

theorem Engine.deviceName_targetOf (node : Node) (secret : Value) (port : Port) :
    (targetOf node secret port).deviceName =
      if node.id.isGiven then node.id else node.management.address := rfl

/-- The targets of a device have names when the device is told by a text. -/
theorem Engine.hasText_deviceName {node : Node} (hid : node.id.hasText = true)
    (h : node.id.isGiven = true ∨ node.management.address.hasText = true) (secret : Value) (port : Port) :
    (targetOf node secret port).deviceName.hasText = true := by
  rw [deviceName_targetOf]
  split
  case isTrue => exact hid
  case isFalse hn => exact h.resolve_left hn

theorem Node.IsDeclared.hasText_id {node : Node} (h : node.IsDeclared) : node.id.hasText = true := by
  obtain ⟨s, hs⟩ := h.id
  rw [hs, Value.hasText_str]

/-- The targets of such a device have names. -/
theorem Node.IsDeclared.hasText_deviceName {node : Node} (h : node.IsDeclared) (secret : Value)
    (port : Port) : (Engine.targetOf node secret port).deviceName.hasText = true :=
  Engine.hasText_deviceName h.hasText_id h.address secret port

/-- A password is given, or the variable that holds it is named by a text. -/
def Management.TellsSecret (m : Management) : Prop :=
  m.password.isGiven = true ∨ ∃ s, m.passwordVariable = .str s

/-- A password that is told may be empty; one that is not told is an error of its own. -/
theorem Management.secret_cases (m : Management) (environment : Environment) :
    (m.TellsSecret ∧ ∃ v, m.secret environment = .ok v) ∨
    (¬m.TellsSecret ∧ ∃ text, m.secret environment = .error (.fault ⟨.wrongType, text⟩)) := by
  rw [Management.secret]
  by_cases hgiven : m.password.isGiven = true
  · exact .inl ⟨.inl hgiven, _, if_pos hgiven⟩
  · rw [if_neg hgiven]
    split
    case h_1 name hname => exact .inl ⟨.inr ⟨name, hname⟩, _, rfl⟩
    case h_2 hname =>
      refine .inr ⟨?_, _, rfl⟩
      rintro (h | ⟨name, h⟩)
      · exact hgiven h
      · exact hname name h

namespace Engine

/-- What a rollout relies on: the store tells the modules of every device by its name or fails as a
store does, sessions go by a script, and the clocks and the audit log do not fail. -/
structure Relies (e : Engine σ) (models : Value → Except RolloutError DeviceModel)
    (script : SessionScript) : Prop where
  models_eq : ∀ id j, ((e.models id).exec j).1 = (models id).mapError .error
  isStore : ∀ id err, models id = .error err → err.kind.isA .store = true
  sessions : e.connector.Follows script
  clock : e.clock.Succeeds
  now : e.now.Succeeds
  audit : ∀ line, (e.audit line).Succeeds

/-- What a store answers when it is asked for the modules of a device: its error names the device. -/
def answer (models : Value → Except RolloutError DeviceModel) (id : Value) : Except Failure DeviceModel :=
  (models id).mapError fun err => if id.hasText then .error err else .unwritten

/-- The store tells the modules of a device by its name or fails as a store does, and leaves what a view
shows of the state as it was. -/
structure Knows (e : Engine σ) (models : Value → Except RolloutError DeviceModel) (view : σ → τ)
    (id : Value) : Prop where
  models_eq : ∀ j, ((e.models id).exec j).1 = answer models id
  isStore : ∀ err, models id = .error err → err.kind.isA .store = true
  keeps : ∀ j, view ((e.models id).exec j).2.world = view j.world

/-- Whether some backend serves a device. -/
def serves (e : Engine σ) (node : Node) : Bool :=
  match e.registry.get node.management.protocol with
  | .ok (some _) => true
  | _ => false

/-- The ports of the devices that are served, port after port and device after device. -/
def targets (e : Engine σ) (nodes : List Node) : List (Node × Port) :=
  (nodes.filter e.serves).flatMap fun node => node.ports.map fun port => (node, port)

/-- A device can be told of while its jobs are made: it has a name, or nothing is to be told of it, as it is
served and its modules are known. -/
def Names (e : Engine σ) (models : Value → Except RolloutError DeviceModel) (node : Node) : Prop :=
  node.id.hasText = true ∨ e.serves node = true ∧ ∃ model, models node.id = .ok model

/-- The names of the devices that no backend serves. -/
def unserved (e : Engine σ) (nodes : List Node) : List Value :=
  (nodes.filter fun node => !e.serves node).map Node.id

/-- The job of a port of a device. -/
def IsJob (e : Engine σ) (models : Value → Except RolloutError DeviceModel) (target : Node × Port)
    (job : Job) : Prop :=
  ∃ backend secret, e.registry.get target.1.management.protocol = .ok (some backend) ∧
    target.1.management.secret e.environment = .ok secret ∧
    job = ⟨target.1.id, targetOf target.1 secret target.2, backend, models target.1.id⟩

variable {e : Engine σ} {models : Value → Except RolloutError DeviceModel} {script : SessionScript}
  {view : σ → τ}

theorem answer_of_hasText {id : Value} (h : id.hasText = true) :
    answer models id = (models id).mapError .error := by
  simp only [answer, h, if_true]

theorem Relies.knows (h : e.Relies models script) {id : Value} (hid : id.hasText = true) :
    e.Knows models (fun _ => ()) id :=
  ⟨fun j => (h.models_eq id j).trans (answer_of_hasText hid).symm, h.isStore id, fun _ => rfl⟩

theorem mem_targets {nodes : List Node} {target : Node × Port} :
    target ∈ e.targets nodes ↔ target.1 ∈ nodes ∧ e.serves target.1 = true ∧ target.2 ∈ target.1.ports := by
  rw [targets, List.mem_flatMap]
  constructor
  · rintro ⟨node, hnode, hmem⟩
    obtain ⟨port, hport, rfl⟩ := List.mem_map.1 hmem
    obtain ⟨hnode, hserves⟩ := List.mem_filter.1 hnode
    exact ⟨hnode, hserves, hport⟩
  · intro ⟨hnode, hserves, hport⟩
    exact ⟨target.1, List.mem_filter.2 ⟨hnode, hserves⟩, List.mem_map_of_mem hport⟩

theorem mem_of_mem_targets {nodes : List Node} {target : Node × Port}
    (h : target ∈ e.targets nodes) : target.1 ∈ nodes := (mem_targets.1 h).1

/-! ## The jobs -/

theorem exec_modelOf {node : Node} (h : e.Knows models view node.id)
    (hname : node.id.hasText = true ∨ ∃ model, models node.id = .ok model) (j : Journal σ) :
    ∃ j', (e.modelOf node).exec j = (.ok (models node.id), j') ∧ view j'.world = view j.world := by
  have hm := h.models_eq j
  rw [modelOf, Action.exec_bind_ok (Action.exec_attempt _ j), hm, answer]
  cases hmodel : models node.id with
  | ok m => exact ⟨_, rfl, h.keeps j⟩
  | error err =>
    have hid : node.id.hasText = true := hname.resolve_right fun ⟨m, hok⟩ => nomatch hmodel.symm.trans hok
    simp only [mapError_error, hid, h.isStore err hmodel, if_true, Value.words_of_hasText hid]
    exact ⟨_, rfl, h.keeps j⟩

/-- The modules of a device without a name are known, or the lack of them cannot be told. -/
theorem exec_modelOf_of_nameless {node : Node} (h : e.Knows models view node.id)
    (hid : ¬node.id.hasText = true) (hmodel : ¬∃ model, models node.id = .ok model) (j : Journal σ) :
    ∃ j', (e.modelOf node).exec j = (.error .unwritten, j') := by
  have hm := h.models_eq j
  rw [modelOf, Action.exec_bind_ok (Action.exec_attempt _ j), hm, answer]
  cases hknown : models node.id with
  | ok m => exact absurd ⟨m, hknown⟩ hmodel
  | error err =>
    rw [mapError_error, if_neg hid]
    exact ⟨_, rfl⟩

theorem registry_get_ok {node : Node} (hp : ∃ s, node.management.protocol = .str s) :
    ∃ b, e.registry.get node.management.protocol = .ok b := by
  obtain ⟨s, hs⟩ := hp
  rw [hs, Registry.get]
  split
  · exact ⟨none, rfl⟩
  · exact ⟨_, rfl⟩

/-- A device that can be told of gets its jobs, one a port, when it is served and its password is told.  It
gets none when it is not served. -/
theorem exec_jobsOf {node : Node} (h : e.Knows models view node.id)
    (hp : ∃ s, node.management.protocol = .str s) (hname : e.Names models node) (j : Journal σ) :
    (e.serves node = false ∧ ∃ j', (e.jobsOf node).exec j = (.ok none, j') ∧
      view j'.world = view j.world) ∨
    (e.serves node = true ∧ node.management.TellsSecret ∧
      ∃ own j', (e.jobsOf node).exec j = (.ok (some own), j') ∧
        List.Forall₂ (e.IsJob models) (node.ports.map fun port => (node, port)) own ∧
        view j'.world = view j.world) ∨
    (e.serves node = true ∧ ¬node.management.TellsSecret ∧
      ∃ text j', (e.jobsOf node).exec j = (.error (.fault ⟨.wrongType, text⟩), j')) := by
  obtain ⟨b, hb⟩ := registry_get_ok hp
  rw [Names, serves, hb] at hname
  rw [serves, jobsOf, hb]
  cases b with
  | none =>
    obtain ⟨s, hs⟩ := hp
    have hid : node.id.hasText = true := hname.resolve_right fun h => nomatch h.1
    refine .inl ⟨rfl, ?_⟩
    rw [Action.exec_bind_ok (Action.exec_ofExcept _ j)]
    dsimp only
    rw [Value.words_of_hasText hid, hs]
    exact ⟨_, rfl, rfl⟩
  | some backend =>
    obtain ⟨j', hmodel, hview⟩ := exec_modelOf h (hname.imp_right And.right) j
    rcases node.management.secret_cases e.environment with ⟨htold, v, hv⟩ | ⟨htold, text, herr⟩
    · let own : List Job :=
        node.ports.map fun port => ⟨node.id, targetOf node v port, backend, models node.id⟩
      refine .inr (.inl ⟨rfl, htold, own, j', ?_, ?_, hview⟩)
      · rw [Action.exec_bind_ok (Action.exec_ofExcept _ j)]
        dsimp only
        rw [Action.exec_bind_ok hmodel, hv]
        rfl
      · rw [List.forall₂_map_left_iff, List.forall₂_map_right_iff, List.forall₂_same]
        exact fun port _ => ⟨backend, v, hb, hv, rfl⟩
    · refine .inr (.inr ⟨rfl, htold, text, j', ?_⟩)
      rw [Action.exec_bind_ok (Action.exec_ofExcept _ j)]
      dsimp only
      rw [Action.exec_bind_ok hmodel, herr]
      rfl

/-- A device that cannot be told of gets no jobs. -/
theorem exec_jobsOf_of_nameless {node : Node} (h : e.Knows models view node.id)
    (hp : ∃ s, node.management.protocol = .str s) (hname : ¬e.Names models node) (j : Journal σ) :
    ∃ j', (e.jobsOf node).exec j = (.error .unwritten, j') := by
  obtain ⟨b, hb⟩ := registry_get_ok hp
  have hid : ¬node.id.hasText = true := fun hid => hname (.inl hid)
  rw [jobsOf, hb, Action.exec_bind_ok (Action.exec_ofExcept _ j)]
  cases b with
  | none =>
    dsimp only
    rw [Value.words_of_not_hasText hid]
    exact ⟨j, rfl⟩
  | some backend =>
    have hserves : e.serves node = true := by simp only [serves, hb]
    obtain ⟨j', hfails⟩ := exec_modelOf_of_nameless h hid (fun hm => hname (.inr ⟨hserves, hm⟩)) j
    exact ⟨j', Action.exec_bind_error hfails _⟩

/-- The jobs of a topology are those of the ports of the devices that are served, in order, and the
devices that are not served are skipped.  Making them does nothing that a view shows. -/
theorem exec_buildJobs_keeps (nodes : List Node) (h : ∀ node ∈ nodes, e.Knows models view node.id)
    (hp : ∀ node ∈ nodes, ∃ s, node.management.protocol = .str s)
    (hname : ∀ node ∈ nodes, e.Names models node)
    (htold : ∀ node ∈ nodes, e.serves node = true → node.management.TellsSecret) (j : Journal σ) :
    ∃ jobs j', (e.buildJobs nodes).exec j = (.ok (jobs, e.unserved nodes), j') ∧
      List.Forall₂ (e.IsJob models) (e.targets nodes) jobs ∧ view j'.world = view j.world := by
  induction nodes generalizing j with
  | nil => exact ⟨[], j, rfl, .nil, rfl⟩
  | cons node nodes ih =>
    rw [List.forall_mem_cons] at h hp hname htold
    have hrest := ih h.2 hp.2 hname.2 htold.2
    rcases exec_jobsOf h.1 hp.1 hname.1 j with
      ⟨hs, j₁, hown, hview₁⟩ | ⟨hs, -, own, j₁, hown, hjobs, hview₁⟩ | ⟨hs, hn, -⟩
    · obtain ⟨jobs, j', hexec, hforall, hview⟩ := hrest j₁
      refine ⟨jobs, j', ?_, by simpa [targets, hs] using hforall, hview.trans hview₁⟩
      rw [buildJobs, Action.exec_bind_ok hown]
      dsimp only
      rw [Action.exec_bind_ok hexec]
      simp [unserved, hs]
    · obtain ⟨jobs, j', hexec, hforall, hview⟩ := hrest j₁
      refine ⟨own ++ jobs, j', ?_, ?_, hview.trans hview₁⟩
      · rw [buildJobs, Action.exec_bind_ok hown]
        dsimp only
        rw [Action.exec_bind_ok hexec]
        simp [unserved, hs]
      · simpa [targets, hs] using List.rel_append hjobs hforall
    · exact absurd (htold.1 hs) hn

theorem exec_buildJobs (h : e.Relies models script) (nodes : List Node)
    (hd : ∀ node ∈ nodes, node.IsDeclared)
    (htold : ∀ node ∈ nodes, e.serves node = true → node.management.TellsSecret) (j : Journal σ) :
    ∃ jobs j', (e.buildJobs nodes).exec j = (.ok (jobs, e.unserved nodes), j') ∧
      List.Forall₂ (e.IsJob models) (e.targets nodes) jobs := by
  obtain ⟨jobs, j', hexec, hjobs, -⟩ :=
    exec_buildJobs_keeps nodes (fun node hn => h.knows (hd node hn).hasText_id)
      (fun node hn => (hd node hn).protocol) (fun node hn => .inl (hd node hn).hasText_id) htold j
  exact ⟨jobs, j', hexec, hjobs⟩

/-- There are no jobs at all when one device gets none for a failure of some kind, and no device gets none for
any other. -/
theorem exec_buildJobs_of_failing {F : Failure → Prop} {nodes : List Node}
    (hall : ∀ node ∈ nodes, ∀ j, (∃ own j', (e.jobsOf node).exec j = (.ok own, j')) ∨
      ∃ f j', F f ∧ (e.jobsOf node).exec j = (.error f, j'))
    (hsome : ∃ node ∈ nodes, ∀ j, ∃ f j', F f ∧ (e.jobsOf node).exec j = (.error f, j')) (j : Journal σ) :
    ∃ f j', F f ∧ (e.buildJobs nodes).exec j = (.error f, j') := by
  refine Action.exec_of_failing (fun node rest j own j₁ f j' hown hrest => ?_)
    (fun node rest j f j' hfails => Action.exec_bind_error hfails _) hall hsome j
  rw [buildJobs, Action.exec_bind_ok hown]
  cases own <;> exact Action.exec_bind_error hrest _

/-- There are no jobs at all when the password of one device that is served is not told. -/
theorem exec_buildJobs_of_untold (h : e.Relies models script) (nodes : List Node)
    (hd : ∀ node ∈ nodes, node.IsDeclared)
    (hn : ∃ node ∈ nodes, e.serves node = true ∧ ¬node.management.TellsSecret) (j : Journal σ) :
    ∃ text j', (e.buildJobs nodes).exec j = (.error (.fault ⟨.wrongType, text⟩), j') := by
  let F : Failure → Prop := fun f => ∃ text, f = .fault ⟨.wrongType, text⟩
  have hcases := fun node (hnode : node ∈ nodes) =>
    exec_jobsOf (h.knows (hd node hnode).hasText_id) (hd node hnode).protocol (.inl (hd node hnode).hasText_id)
  have hall : ∀ node ∈ nodes, ∀ j, (∃ own j', (e.jobsOf node).exec j = (.ok own, j')) ∨
      ∃ f j', F f ∧ (e.jobsOf node).exec j = (.error f, j') := by
    intro node hnode j
    rcases hcases node hnode j with ⟨-, j₁, hown, -⟩ | ⟨-, -, own, j₁, hown, -⟩ | ⟨-, -, text, j₁, hfails⟩
    · exact .inl ⟨_, j₁, hown⟩
    · exact .inl ⟨_, j₁, hown⟩
    · exact .inr ⟨_, j₁, ⟨text, rfl⟩, hfails⟩
  have hsome : ∃ node ∈ nodes, ∀ j, ∃ f j', F f ∧ (e.jobsOf node).exec j = (.error f, j') := by
    obtain ⟨node, hnode, hserves, hnot⟩ := hn
    refine ⟨node, hnode, fun j => ?_⟩
    rcases hcases node hnode j with ⟨hs, -⟩ | ⟨-, ht, -⟩ | ⟨-, -, text, j₁, hfails⟩
    · cases hs.symm.trans hserves
    · exact absurd ht hnot
    · exact ⟨_, j₁, ⟨text, rfl⟩, hfails⟩
  obtain ⟨_, j', ⟨text, rfl⟩, hexec⟩ := exec_buildJobs_of_failing hall hsome j
  exact ⟨text, j', hexec⟩

/-- The jobs of one target are all the same job. -/
theorem IsJob.eq {target : Node × Port} {job job' : Job} (h : e.IsJob models target job)
    (h' : e.IsJob models target job') : job = job' := by
  obtain ⟨backend, secret, hb, hs, rfl⟩ := h
  obtain ⟨backend', secret', hb', hs', rfl⟩ := h'
  rw [hb] at hb'
  rw [hs] at hs'
  cases hb'
  cases hs'
  rfl

theorem IsJob.isNamed {target : Node × Port} {job : Job} (h : e.IsJob models target job)
    (hd : target.1.IsDeclared) : job.IsNamed := by
  obtain ⟨backend, secret, -, -, rfl⟩ := h
  exact fun model _ => hd.hasText_deviceName secret target.2

theorem isNamed_of_isJobs {nodes : List Node} (hd : ∀ node ∈ nodes, node.IsDeclared) {jobs : List Job}
    (hjobs : List.Forall₂ (e.IsJob models) (e.targets nodes) jobs) : ∀ job ∈ jobs, job.IsNamed := by
  intro job hjob
  obtain ⟨target, htarget, hisJob⟩ := forall₂_exists_left hjobs job hjob
  exact hisJob.isNamed (hd _ (mem_of_mem_targets htarget))

theorem IsJob.tellsSecret {target : Node × Port} {job : Job} (h : e.IsJob models target job) :
    target.1.management.TellsSecret := by
  obtain ⟨backend, secret, -, hs, -⟩ := h
  rcases target.1.management.secret_cases e.environment with ⟨htold, -⟩ | ⟨-, text, herr⟩
  · exact htold
  · cases hs.symm.trans herr

/-- A result of the job of a port of a device, up to the time it took. -/
def IsResult (e : Engine σ) (models : Value → Except RolloutError DeviceModel) (script : SessionScript)
    (s : Schedule) (dryRun : Bool) (target : Node × Port) (r : TargetResult) : Prop :=
  ∃ job, e.IsJob models target job ∧ r.untimed = jobResult script (.schedule s) dryRun job

theorem jobResult_names (script : SessionScript) (intent : Intent) (dryRun : Bool) (job : Job) :
    (jobResult script intent dryRun job).nodeId = job.nodeId ∧
    (jobResult script intent dryRun job).interface = job.target.interface := by
  rw [jobResult]
  cases job.model with
  | error err => exact ⟨rfl, rfl⟩
  | ok model => exact resultOf_names ..

theorem IsResult.names {s : Schedule} {dryRun : Bool} {target : Node × Port} {r : TargetResult}
    (h : e.IsResult models script s dryRun target r) :
    r.nodeId = target.1.id ∧ r.interface = target.2.name := by
  obtain ⟨job, ⟨backend, secret, -, -, rfl⟩, hr⟩ := h
  obtain ⟨hid, hinterface⟩ := jobResult_names script (.schedule s) dryRun
    ⟨target.1.id, targetOf target.1 secret target.2, backend, models target.1.id⟩
  rw [← hr] at hid hinterface
  exact ⟨hid, hinterface⟩

/-! ## The results -/

/-- Jobs have their results in order, and what they add to a log is what each of them adds, in order. -/
theorem exec_runAll_adds {ε δ : Type} {log : σ → List δ} {mark : ε → δ} {work : Job → Action σ TargetResult}
    {R : Job → TargetResult × List ε → Prop} {jobs : List Job}
    (hwork : ∀ job ∈ jobs, ∀ j, ∃ r added j', (work job).exec j = (.ok r, j') ∧
      log j'.world = log j.world ++ added.map mark ∧ R job (r, added)) (j : Journal σ) :
    ∃ xs j', (Executor.runAll (pure false) work jobs).exec j = (.ok (xs.map Prod.fst), j') ∧
      log j'.world = log j.world ++ (xs.flatMap Prod.snd).map mark ∧ List.Forall₂ R jobs xs := by
  induction jobs generalizing j with
  | nil => exact ⟨[], j, rfl, (List.append_nil _).symm, .nil⟩
  | cons job jobs ih =>
    rw [List.forall_mem_cons] at hwork
    obtain ⟨r, added, j₁, hr, hlog₁, hR⟩ := hwork.1 j
    obtain ⟨xs, j', hxs, hlog, hRs⟩ := ih hwork.2 j₁
    have hone : (Executor.runOne (pure false) work job).exec j = (.ok r, j₁) := hr
    refine ⟨(r, added) :: xs, j', ?_, ?_, .cons hR hRs⟩
    · rw [Executor.runAll, Action.exec_bind_ok hone, Action.exec_bind_ok hxs, Action.exec_pure]
      rfl
    · rw [hlog, hlog₁, List.append_assoc, List.flatMap_cons, List.map_append]

/-- What holds of every job's result from every journal holds of the results of all jobs. -/
theorem exec_runAll {work : Job → Action σ TargetResult} {R : Job → TargetResult → Prop}
    {jobs : List Job} (hwork : ∀ job ∈ jobs, ∀ j, ∃ r j', (work job).exec j = (.ok r, j') ∧ R job r)
    (j : Journal σ) :
    ∃ rs j', (Executor.runAll (pure false) work jobs).exec j = (.ok rs, j') ∧
      List.Forall₂ R jobs rs := by
  obtain ⟨xs, j', hxs, -, hRs⟩ :=
    @exec_runAll_adds σ Unit Unit (fun _ => []) id work (fun job x => R job x.1) jobs
      (fun job hjob j => (hwork job hjob j).imp fun r ⟨j', hr, hR⟩ => ⟨[], j', hr, rfl, hR⟩) j
  exact ⟨xs.map Prod.fst, j', hxs, List.forall₂_map_right_iff.2 hRs⟩

/-- There are no results at all when one job has none for a failure of some kind, and no job has none for any
other. -/
theorem exec_runAll_of_failing {F : Failure → Prop} {work : Job → Action σ TargetResult} {jobs : List Job}
    (hall : ∀ job ∈ jobs, ∀ j, (∃ r j', (work job).exec j = (.ok r, j')) ∨
      ∃ f j', F f ∧ (work job).exec j = (.error f, j'))
    (hsome : ∃ job ∈ jobs, ∀ j, ∃ f j', F f ∧ (work job).exec j = (.error f, j')) (j : Journal σ) :
    ∃ f j', F f ∧ (Executor.runAll (pure false) work jobs).exec j = (.error f, j') := by
  refine Action.exec_of_failing (fun job rest j r j₁ f j' hr hrest => ?_)
    (fun job rest j f j' hfails => ?_) hall hsome j
  · have hone : (Executor.runOne (pure false) work job).exec j = (.ok r, j₁) := hr
    rw [Executor.runAll, Action.exec_bind_ok hone, Action.exec_bind_error hrest]
  · have hone : (Executor.runOne (pure false) work job).exec j = (.error f, j') := hfails
    rw [Executor.runAll, Action.exec_bind_error hone]

/-- What a rollout does once its jobs have run: it records the results and tells what they amount to. -/
def conclude (e : Engine σ) (intent : Intent) (options : RunOptions) (skipped : List Value)
    (results : List TargetResult) : Action σ Outcome := do
  let outcome := Outcome.ofResults results skipped options.dryRun
  e.auditAll intent options results
  Action.logAll (outcome.failures.map failureRecord)
  Action.log .info (← Action.ofExcept outcome.summary)
  return outcome

theorem exec_conclude (hnow : e.now.Succeeds) (haudit : ∀ line, (e.audit line).Succeeds) (s : Schedule)
    (options : RunOptions) (hsum : options.checksum.IsPlain) {skipped : List Value}
    (hskipped : ∀ v ∈ skipped, ∃ t, v = .str t) {results : List TargetResult}
    (hids : ∀ r ∈ results, ∃ t, r.nodeId = .str t) (j : Journal σ) :
    ∃ j', (e.conclude (.schedule s) options skipped results).exec j =
      (.ok (.ofResults results skipped options.dryRun), j') := by
  have hplain : ∀ r ∈ results, r.nodeId.IsPlain := fun r hr => by
    obtain ⟨t, ht⟩ := hids r hr
    exact ht ▸ .str t
  obtain ⟨_, j₁, hrecorded⟩ := succeeds_auditAll hnow haudit s options hsum results hplain j
  obtain ⟨-, text, htext⟩ | ⟨hn, -⟩ := Outcome.summary_cases results skipped options.dryRun
  swap
  · exact absurd hskipped hn
  obtain ⟨_, j₂, hlogs⟩ := (Action.quiet_logAll ((Outcome.ofResults results skipped
    options.dryRun).failures.map failureRecord)).succeeds j₁
  refine ⟨{ j₂ with records := j₂.records ++ [⟨.info, text⟩] }, ?_⟩
  rw [conclude, Action.exec_bind_ok hrecorded, Action.exec_bind_ok hlogs, htext]
  rfl

theorem apply_eq (e : Engine σ) (cancelled : Action σ Bool) (s : Schedule) (t : Topology)
    (options : RunOptions) :
    e.apply cancelled (.schedule s) t options = (do
      let (jobs, skipped) ← e.buildJobs t.nodes
      let verb := if options.dryRun then "Rendering" else "Applying"
      let served := t.nodes.length - skipped.length
      Action.log .info
        s!"{verb} {(Intent.schedule s).feature.text} intent to {Text.natText jobs.length} target(s) on {Text.natText served} node(s)"
      let results ← Executor.run e.settings.maxWorkers cancelled (e.runJob (.schedule s) options.dryRun) jobs
      e.conclude (.schedule s) options skipped results) := rfl

/-- A rollout returns, skips the devices that no backend serves, and has the results of the jobs of all
other ports. -/
theorem exec_apply (h : e.Relies models script) {workers : Int} (hw : e.settings.maxWorkers = .int workers)
    (hpos : 1 ≤ workers) (s : Schedule) (nodes : List Node)
    (hd : ∀ node ∈ nodes, node.IsDeclared)
    (htold : ∀ node ∈ nodes, e.serves node = true → node.management.TellsSecret)
    (options : RunOptions) (hsum : options.checksum.IsPlain) (j : Journal σ) :
    ∃ o j', (e.apply (pure false) (.schedule s) ⟨nodes⟩ options).exec j = (.ok o, j') ∧
      o.skipped = e.unserved nodes ∧
      List.Forall₂ (e.IsResult models script s options.dryRun) (e.targets nodes) o.results := by
  obtain ⟨jobs, j₁, hbuild, hjobs⟩ := exec_buildJobs h nodes hd htold j
  rw [apply_eq, Action.exec_bind_ok hbuild]
  dsimp only
  rw [Action.exec_bind_ok (Action.exec_log _ _ _), hw, Executor.run_eq_runAll hpos]
  obtain ⟨rs, j₃, hrun, hrs⟩ := exec_runAll (fun job hjob j =>
    exec_runJob h.sessions h.clock (.schedule s) options.dryRun (isNamed_of_isJobs hd hjobs job hjob) j) _
  rw [Action.exec_bind_ok hrun]
  have hskipped : ∀ v ∈ e.unserved nodes, ∃ t, v = .str t := by
    intro v hv
    obtain ⟨node, hnode, rfl⟩ := List.mem_map.1 hv
    exact (hd node (List.mem_of_mem_filter hnode)).id
  have hresults : List.Forall₂ (e.IsResult models script s options.dryRun) (e.targets nodes) rs :=
    forall₂_comp hjobs hrs
  have hids : ∀ r ∈ rs, ∃ t, r.nodeId = .str t := by
    intro r hr
    obtain ⟨target, htarget, hresult⟩ := forall₂_exists_left hresults r hr
    rw [hresult.names.1]
    exact (hd _ (mem_of_mem_targets htarget)).id
  obtain ⟨j', hconclude⟩ := exec_conclude h.now h.audit s options hsum hskipped hids j₃
  exact ⟨_, j', hconclude, rfl, hresults⟩

theorem exec_apply_of_untold (h : e.Relies models script) (s : Schedule) (t : Topology)
    (hd : ∀ node ∈ t.nodes, node.IsDeclared)
    (hn : ∃ node ∈ t.nodes, e.serves node = true ∧ ¬node.management.TellsSecret)
    (options : RunOptions) (j : Journal σ) :
    ∃ text j', (e.apply (pure false) (.schedule s) t options).exec j =
      (.error (.fault ⟨.wrongType, text⟩), j') := by
  obtain ⟨text, j', hfails⟩ := exec_buildJobs_of_untold h t.nodes hd hn j
  exact ⟨text, j', by rw [apply_eq, Action.exec_bind_error hfails]⟩

theorem exec_runJob_of_nameless (hclock : e.clock.Succeeds) (intent : Intent) (dryRun : Bool) {job : Job}
    (hname : ¬job.IsNamed) (j : Journal σ) :
    ∃ j', (e.runJob intent dryRun job).exec j = (.error .unwritten, j') := by
  rw [Job.IsNamed] at hname
  push Not at hname
  obtain ⟨model, hm, hnot⟩ := hname
  rw [runJob, hm]
  exact exec_runKnown_of_nameless hclock intent dryRun model hnot j

/-- A rollout fails when the device of some job has no name, whatever becomes of the others. -/
theorem exec_apply_of_nameless (hclock : e.clock.Succeeds) {workers : Int}
    (hw : e.settings.maxWorkers = .int workers) (hpos : 1 ≤ workers) {s : Schedule} {t : Topology}
    {options : RunOptions} {jobs : List Job} {skipped : List Value} {j j₁ : Journal σ}
    (hbuild : (e.buildJobs t.nodes).exec j = (.ok (jobs, skipped), j₁))
    (hn : ∃ job ∈ jobs, ¬job.IsNamed) :
    ∃ j', (e.apply (pure false) (.schedule s) t options).exec j = (.error .unwritten, j') := by
  have hfails : ∀ job, ¬job.IsNamed → ∀ j, ∃ f j', f = Failure.unwritten ∧
      (e.runJob (.schedule s) options.dryRun job).exec j = (.error f, j') := fun job hnot j =>
    let ⟨j', hexec⟩ := exec_runJob_of_nameless hclock (.schedule s) options.dryRun hnot j
    ⟨_, j', rfl, hexec⟩
  have hall : ∀ job ∈ jobs, ∀ j, (∃ r j', (e.runJob (.schedule s) options.dryRun job).exec j = (.ok r, j')) ∨
      ∃ f j', f = Failure.unwritten ∧
        (e.runJob (.schedule s) options.dryRun job).exec j = (.error f, j') := by
    intro job hjob j
    by_cases hname : job.IsNamed
    · exact .inl (succeeds_runJob hclock (.schedule s) options.dryRun hname j)
    · exact .inr (hfails job hname j)
  rw [apply_eq, Action.exec_bind_ok hbuild]
  dsimp only
  rw [Action.exec_bind_ok (Action.exec_log _ _ _), hw, Executor.run_eq_runAll hpos]
  obtain ⟨_, j', rfl, hrun⟩ := exec_runAll_of_failing hall (hn.imp fun job h => ⟨h.1, hfails job h.2⟩) _
  exact ⟨j', Action.exec_bind_error hrun _⟩

/-! ## Several workers -/

theorem forall₂_some {α β : Type} {S : α → β → Prop} {as : List α} {xs : List (Option β)}
    (h : List.Forall₂ (fun a x => ∃ b, x = some b ∧ S a b) as xs) :
    ∃ bs, xs = bs.map some ∧ List.Forall₂ S as bs := by
  induction h with
  | nil => exact ⟨[], rfl, .nil⟩
  | cons hx _ ih =>
    obtain ⟨b, rfl, hb⟩ := hx
    obtain ⟨bs, rfl, hbs⟩ := ih
    exact ⟨b :: bs, rfl, .cons hb hbs⟩

/-- The results of a run on several workers that is not cancelled and whose jobs are run by the engine
are those of the jobs. -/
theorem interleaved_results (h : e.Relies models script) {workers : Nat} (hpos : 1 ≤ workers)
    (s : Schedule) (dryRun : Bool) {targets : List (Node × Port)} {jobs : List Job}
    (hjobs : List.Forall₂ (e.IsJob models) targets jobs) (hnames : ∀ job ∈ jobs, job.IsNamed)
    {es : List Executor.Pool.Event} {p : Executor.Pool} (hr : Executor.Pool.Run jobs workers false es p)
    (hend : p.Ended jobs workers) (hn : .cancel ∉ es)
    (hdone : ∀ i r job, .done i r ∈ es → jobs[i]? = some job →
      ∃ k, ((e.runJob (.schedule s) dryRun job).exec k).1 = .ok r) :
    ∃ rs, p.results = rs.map some ∧
      List.Forall₂ (e.IsResult models script s dryRun) targets rs := by
  have hcut := hend.cutAt hr hpos
  rw [hend.calls_length hr hpos rfl hn] at hcut
  have hlength := (Executor.Pool.Counts.of_run hr).length_eq
  have hall : List.Forall₂ (fun job x => ∃ r, x = some r ∧
      r.untimed = jobResult script (.schedule s) dryRun job) jobs p.results := by
    refine List.forall₂_iff_get.2 ⟨hlength.symm, fun i hi hi' => ?_⟩
    obtain ⟨r, hmem, hres⟩ := hcut.returned i hi
    obtain ⟨k, hk⟩ := hdone i r _ hmem (List.getElem?_eq_getElem hi)
    obtain ⟨r', j', hexec, huntimed⟩ :=
      exec_runJob h.sessions h.clock (.schedule s) dryRun (hnames _ (List.getElem_mem hi)) k
    rw [hexec] at hk
    obtain rfl := Except.ok.inj hk
    rw [List.getElem?_eq_getElem hi'] at hres
    exact ⟨r', Option.some.inj hres, huntimed⟩
  obtain ⟨rs, hrs, hresults⟩ := forall₂_some hall
  exact ⟨rs, hrs, forall₂_comp hjobs hresults⟩

/-! ## The main statement -/

/-- The result of a port is named after it, and is the one it has in a rollout to that port alone, up to
the time it took. -/
structure AsAlone (e : Engine σ) (s : Schedule) (options : RunOptions) (target : Node × Port)
    (r : TargetResult) : Prop where
  nodeId : r.nodeId = target.1.id
  interface : r.interface = target.2.name
  alone : ∀ j, ∃ o j' alone,
    (e.apply (pure false) (.schedule s) ⟨[{ target.1 with ports := [target.2] }]⟩ options).exec j =
      (.ok o, j') ∧
    o.results = [alone] ∧ alone.untimed = r.untimed

theorem IsResult.asAlone (h : e.Relies models script) {workers : Int}
    (hw : e.settings.maxWorkers = .int workers) (hpos : 1 ≤ workers) (s : Schedule)
    (options : RunOptions) (hsum : options.checksum.IsPlain) {target : Node × Port}
    (hd : target.1.IsDeclared) {r : TargetResult}
    (hr : e.IsResult models script s options.dryRun target r) : e.AsAlone s options target r := by
  obtain ⟨hid, hinterface⟩ := hr.names
  refine ⟨hid, hinterface, fun j => ?_⟩
  obtain ⟨node, port⟩ := target
  obtain ⟨job, hjob, hr⟩ := hr
  have hd' : ∀ n ∈ [{ node with ports := [port] }], n.IsDeclared := by
    intro n hn
    obtain rfl := List.mem_singleton.1 hn
    exact ⟨hd.id, hd.protocol, hd.address⟩
  have hserves : e.serves { node with ports := [port] } = true := by
    obtain ⟨backend, -, hb, -⟩ := hjob
    simp only [serves, hb]
  have htold : ∀ n ∈ [{ node with ports := [port] }], e.serves n = true → n.management.TellsSecret := by
    intro n hn _
    obtain rfl := List.mem_singleton.1 hn
    exact hjob.tellsSecret
  obtain ⟨o, j', hexec, -, hresults⟩ :=
    exec_apply h hw hpos s [{ node with ports := [port] }] hd' htold options hsum j
  simp only [targets, List.filter_cons, hserves, if_true, List.filter_nil, List.flatMap_cons,
    List.flatMap_nil, List.map_cons, List.map_nil, List.append_nil] at hresults
  obtain ⟨alone, rest, ⟨job', hjob', halone⟩, hnil, hres⟩ := List.forall₂_cons_left_iff.1 hresults
  obtain rfl := List.forall₂_nil_left_iff.1 hnil
  obtain rfl : job = job' := hjob.eq hjob'
  exact ⟨o, j', alone, hexec, hres, halone.trans hr.symm⟩

/-- A rollout to devices whose passwords are told returns whatever goes wrong with its targets.  It
skips, in order, the devices that no backend serves, and has one result for every port of every other
device, in order, each of which is the result of a rollout to that port alone.  The same holds of the
results when the jobs overlap on the workers.  Where the password of a device that is served is not
told, there are no jobs and no results. -/
theorem fan_out_isolates (h : e.Relies models script) {workers : Nat}
    (hw : e.settings.maxWorkers = .int workers) (hpos : 1 ≤ workers) (s : Schedule) (t : Topology)
    (hd : ∀ node ∈ t.nodes, node.IsDeclared) (options : RunOptions)
    (hsum : options.checksum.IsPlain) (j : Journal σ) :
    ((∀ node ∈ t.nodes, e.serves node = true → node.management.TellsSecret) →
      (∃ o j', (e.apply (pure false) (.schedule s) t options).exec j = (.ok o, j') ∧
        o.skipped = e.unserved t.nodes ∧
        List.Forall₂ (e.AsAlone s options) (e.targets t.nodes) o.results) ∧
      ∃ jobs j', (e.buildJobs t.nodes).exec j = (.ok (jobs, e.unserved t.nodes), j') ∧
        ∀ es p, Executor.Pool.Run jobs workers false es p → p.Ended jobs workers → .cancel ∉ es →
          (∀ i r job, .done i r ∈ es → jobs[i]? = some job →
            ∃ k, ((e.runJob (.schedule s) options.dryRun job).exec k).1 = .ok r) →
          ∃ rs, p.results = rs.map some ∧
            List.Forall₂ (e.AsAlone s options) (e.targets t.nodes) rs) ∧
    ((∃ node ∈ t.nodes, e.serves node = true ∧ ¬node.management.TellsSecret) →
      ∃ text j', (e.apply (pure false) (.schedule s) t options).exec j =
        (.error (.fault ⟨.wrongType, text⟩), j')) := by
  have hpos' : (1 : Int) ≤ workers := by omega
  have halone : ∀ results,
      List.Forall₂ (e.IsResult models script s options.dryRun) (e.targets t.nodes) results →
      List.Forall₂ (e.AsAlone s options) (e.targets t.nodes) results := by
    intro results hresults
    have hmem := (List.forall₂_and_left _ _).2 ⟨fun target htarget => htarget, hresults⟩
    exact hmem.imp fun target r ⟨htarget, hr⟩ =>
      hr.asAlone h hw hpos' s options hsum (hd _ (mem_of_mem_targets htarget))
  constructor
  · intro htold
    constructor
    · obtain ⟨o, j', hexec, hskipped, hresults⟩ :=
        exec_apply h hw hpos' s t.nodes hd htold options hsum j
      exact ⟨o, j', hexec, hskipped, halone _ hresults⟩
    · obtain ⟨jobs, j', hbuild, hjobs⟩ := exec_buildJobs h t.nodes hd htold j
      refine ⟨jobs, j', hbuild, fun es p hr hend hn hdone => ?_⟩
      obtain ⟨rs, hrs, hresults⟩ :=
        interleaved_results h hpos s options.dryRun hjobs (isNamed_of_isJobs hd hjobs) hr hend hn hdone
      exact ⟨rs, hrs, halone _ hresults⟩
  · intro hn
    exact exec_apply_of_untold h s t hd hn options j

theorem still_relies {connector : Connector σ} (hc : connector.Follows script)
    (registry : Registry Backend) (hm : ∀ id err, models id = .error err → err.kind.isA .store = true) :
    (still connector registry models).Relies models script where
  models_eq _ _ := rfl
  isStore := hm
  sessions := hc
  clock := (Action.quiet_pure _).succeeds
  now := (Action.quiet_pure _).succeeds
  audit _ := (Action.quiet_pure ()).succeeds

/-- Three devices, of which one has no modules on record and one speaks an unknown protocol, and a port
whose session does not open: there are three results, and one device is skipped. -/
theorem fan_out_of_three :
    let node (id protocol : String) (ports : List Port) : Node :=
      ⟨.str id, { address := .str id, protocol := .str protocol }, ports⟩
    let t : Topology :=
      ⟨[node "a" "netconf" [⟨"p1"⟩, ⟨"p2"⟩], node "b" "snmp" [⟨"p1"⟩], node "c" "netconf" [⟨"p1"⟩]]⟩
    let script : SessionScript :=
      { opens := fun target => if target.interface = "p1" then .error (.fault ⟨.timedOut, ""⟩) else .ok ()
        edits := fun _ _ => .ok ()
        closes := fun _ => .ok () }
    let e : Engine Unit := still (.scripted script)
      ⟨[("netconf", ⟨"netconf", [("qbv", [.standard])]⟩)]⟩
      fun id =>
        if id.isText "c" then .error ⟨.store, "no entry", none, none⟩ else .ok ⟨Plugin.standard.required⟩
    let s : Schedule := ⟨"s", 0, 1000, .enabled, [], none⟩
    ∃ o j', (e.apply (pure false) (.schedule s) t {}).exec ⟨[], [], ()⟩ = (.ok o, j') ∧
      o.skipped = [.str "b"] ∧
      List.Forall₂ (e.AsAlone s {})
        [(t.nodes[0], ⟨"p1"⟩), (t.nodes[0], ⟨"p2"⟩), (t.nodes[2], ⟨"p1"⟩)] o.results := by
  intro node t script e s
  have hrelies : e.Relies _ script := still_relies (Connector.scripted_follows script) _ fun id err h => by
    split at h
    · obtain rfl := Except.error.inj h
      rfl
    · cases h
  have hd : ∀ n ∈ t.nodes, n.IsDeclared := by
    intro n hn
    simp only [t, List.mem_cons, List.not_mem_nil, or_false] at hn
    rcases hn with rfl | rfl | rfl <;> exact ⟨⟨_, rfl⟩, ⟨_, rfl⟩, .inl rfl⟩
  have htold : ∀ n ∈ t.nodes, e.serves n = true → n.management.TellsSecret := by
    intro n hn _
    simp only [t, List.mem_cons, List.not_mem_nil, or_false] at hn
    rcases hn with rfl | rfl | rfl <;> exact .inr ⟨_, rfl⟩
  obtain ⟨⟨o, j', hexec, hskipped, hresults⟩, -⟩ :=
    (fan_out_isolates hrelies rfl (by decide) s t hd {} .null ⟨[], [], ()⟩).1 htold
  exact ⟨o, j', hexec, hskipped, hresults⟩

/-- A device with no password and a number where the name of a variable should be, and a device with no name
and a number of too many digits for an address: a rollout to either fails with a fault of its own, though the
device would accept everything. -/
theorem fan_out_fails_for_odd_devices :
    let unsecured : Node :=
      ⟨.str "a", { address := .str "192.0.2.1", passwordVariable := .int 5 }, [⟨"p1"⟩]⟩
    let unnamed : Node := ⟨.str "", { address := .int Text.leastUnwritten }, [⟨"p1"⟩]⟩
    let script : SessionScript :=
      { opens := fun _ => .ok (), edits := fun _ _ => .ok (), closes := fun _ => .ok () }
    let models : Value → Except RolloutError DeviceModel := fun _ => .ok ⟨Plugin.standard.required⟩
    let e : Engine Unit :=
      still (.scripted script) ⟨[("netconf", ⟨"netconf", [("qbv", [.standard])]⟩)]⟩ models
    let s : Schedule := ⟨"s", 0, 1000, .enabled, [], none⟩
    e.Relies models script ∧ e.settings.maxWorkers = .int 8 ∧
      ∀ node ∈ [unsecured, unnamed], e.serves node = true ∧
        ¬∃ o j', (e.apply (pure false) (.schedule s) ⟨[node]⟩ {}).exec ⟨[], [], ()⟩ = (.ok o, j') := by
  intro unsecured unnamed script models e s
  have hrelies : e.Relies models script :=
    still_relies (Connector.scripted_follows script) _ fun id err h => by cases h
  have hunsecured : ∃ text j', (e.apply (pure false) (.schedule s) ⟨[unsecured]⟩ {}).exec ⟨[], [], ()⟩ =
      (.error (.fault ⟨.wrongType, text⟩), j') := by
    have hd : unsecured.IsDeclared := ⟨⟨_, rfl⟩, ⟨_, rfl⟩, .inl rfl⟩
    have hn : ¬unsecured.management.TellsSecret := by
      rintro (h | ⟨name, h⟩)
      · cases h
      · cases h
    exact exec_apply_of_untold hrelies s ⟨[unsecured]⟩ (List.forall_mem_singleton.2 hd)
      ⟨unsecured, List.mem_singleton_self _, rfl, hn⟩ {} ⟨[], [], ()⟩
  have hunnamed : ∃ j', (e.apply (pure false) (.schedule s) ⟨[unnamed]⟩ {}).exec ⟨[], [], ()⟩ =
      (.error .unwritten, j') := by
    obtain ⟨jobs, j₁, hbuild, hjobs, -⟩ := exec_buildJobs_keeps [unnamed]
      (List.forall_mem_singleton.2 (hrelies.knows rfl)) (List.forall_mem_singleton.2 ⟨_, rfl⟩)
      (List.forall_mem_singleton.2 (.inl rfl)) (List.forall_mem_singleton.2 fun _ => .inr ⟨_, rfl⟩)
      ⟨[], [], ()⟩
    refine exec_apply_of_nameless hrelies.clock rfl (by decide) hbuild ?_
    obtain ⟨job, rest, ⟨backend, secret, -, -, rfl⟩, -, rfl⟩ := List.forall₂_cons_left_iff.1 hjobs
    refine ⟨_, List.mem_cons_self, fun hname => ?_⟩
    have htext := Value.hasText_int.symm.trans (hname _ rfl)
    rw [Text.isWritten_leastUnwritten] at htext
    cases htext
  refine ⟨hrelies, rfl, List.forall_mem_cons.2 ⟨⟨rfl, ?_⟩, List.forall_mem_singleton.2 ⟨rfl, ?_⟩⟩⟩
  · rintro ⟨o, j', hexec⟩
    obtain ⟨text, j'', hfails⟩ := hunsecured
    cases hexec.symm.trans hfails
  · rintro ⟨o, j', hexec⟩
    obtain ⟨j'', hfails⟩ := hunnamed
    cases hexec.symm.trans hfails

end Engine

end GateRollout
