import GateRollout.Proofs.Audit.Limit
import GateRollout.Proofs.Service.ApplyArguments
import GateRollout.Proofs.Service.ExitCodes
import GateRollout.Proofs.Service.Reporting
import GateRollout.Proofs.Transport.Discipline

/-!
# The number of workers

How many pushes run at once is said on the command line, or else by the environment.  The number goes
through the reading of the arguments or of the variable, and through the settings, to the executor.  It
comes there as it was given, or nothing is done at all; only a zero on the command line is taken for no
number.
-/

namespace GateRollout

variable {σ : Type}

/-! ## Data -/

namespace Value

mutual

/-- Whether two values are the same texts, lists or maps. -/
def isSame : Value → Value → Bool
  | .str s, .str t => s == t
  | .list xs, .list ys => areSame xs ys
  | .map xs, .map ys => entriesAreSame xs ys
  | _, _ => false

/-- Whether values are the same one by one. -/
def areSame : List Value → List Value → Bool
  | [], [] => true
  | x :: xs, y :: ys => x.isSame y && areSame xs ys
  | _, _ => false

/-- Whether entries are the same one by one. -/
def entriesAreSame : List (Value × Value) → List (Value × Value) → Bool
  | [], [] => true
  | (k, v) :: xs, (l, w) :: ys => k.isSame l && v.isSame w && entriesAreSame xs ys
  | _, _ => false

end

mutual

theorem eq_of_isSame : ∀ {v w : Value}, v.isSame w = true → v = w := by
  intro v w h
  cases v <;> cases w <;> simp only [isSame, Bool.false_eq_true] at h
  case str.str s t => rw [beq_iff_eq.1 h]
  case list.list xs ys => rw [eq_of_areSame h]
  case map.map xs ys => rw [eq_of_entriesAreSame h]

theorem eq_of_areSame : ∀ {xs ys : List Value}, areSame xs ys = true → xs = ys
  | [], [], _ => rfl
  | x :: xs, y :: ys, h => by
    rw [areSame, Bool.and_eq_true] at h
    rw [eq_of_isSame h.1, eq_of_areSame h.2]
  | [], _ :: _, h => by simp [areSame] at h
  | _ :: _, [], h => by simp [areSame] at h

theorem eq_of_entriesAreSame :
    ∀ {xs ys : List (Value × Value)}, entriesAreSame xs ys = true → xs = ys
  | [], [], _ => rfl
  | (k, v) :: xs, (l, w) :: ys, h => by
    rw [entriesAreSame, Bool.and_eq_true, Bool.and_eq_true] at h
    rw [eq_of_isSame h.1.1, eq_of_isSame h.1.2, eq_of_entriesAreSame h.2]
  | [], _ :: _, h => by simp [entriesAreSame] at h
  | _ :: _, [], h => by simp [entriesAreSame] at h

end

end Value

/-! ## Counts -/

namespace Settings

theorem isBelowOne_int (n : Int) : isBelowOne (.int n) = .ok (decide (n < 1)) := rfl

/-- Settings with two integers for counts are acceptable when both counts are positive. -/
theorem check_of_ints {s : Settings} {workers retries : Int} (hworkers : s.maxWorkers = .int workers)
    (hretries : s.connectRetries = .int retries) (hpos : 1 ≤ retries) :
    check s = if workers < 1 then .error (tooSmall "max_workers") else .ok s := by
  rw [check, hworkers, hretries, isBelowOne_int, isBelowOne_int, decide_eq_false (Int.not_lt.2 hpos)]
  by_cases hbelow : workers < 1
  · rw [decide_eq_true hbelow, if_pos hbelow]
    rfl
  · rw [decide_eq_false hbelow, if_neg hbelow]
    rfl

end Settings

/-! ## A rollout whose jobs are known -/

namespace Engine

/-- What is left of a rollout when its jobs are known: the executor runs them on some workers, and the outcome
is what became of them. -/
def runOn (e : Engine σ) (workers : Value) (s : Schedule) (options : RunOptions) (jobs : List Job)
    (skipped : List Value) : Action σ Outcome := do
  let results ← Executor.run workers (pure false) (e.runJob (.schedule s) options.dryRun) jobs
  e.conclude (.schedule s) options skipped results

/-- When its jobs are known, a rollout runs them on the workers of the settings. -/
theorem exec_apply_of_jobs {e : Engine σ} {t : Topology} {jobs : List Job} {skipped : List Value}
    {j j₁ : Journal σ} (hbuild : (e.buildJobs t.nodes).exec j = (.ok (jobs, skipped), j₁)) (s : Schedule)
    (options : RunOptions) :
    ∃ j', (e.apply (pure false) (.schedule s) t options).exec j =
      (e.runOn e.settings.maxWorkers s options jobs skipped).exec j' ∧ j'.world = j₁.world := by
  rw [apply_eq, Action.exec_bind_ok hbuild]
  dsimp only
  rw [Action.exec_bind_ok (Action.exec_log _ _ _)]
  exact ⟨_, rfl, rfl⟩

/-- On at least one worker every job has its result, and the outcome is what the results amount to. -/
theorem exec_runOn {e : Engine σ} {script : SessionScript} (hc : e.connector.Follows script)
    (hclock : e.clock.Succeeds) (hnow : e.now.Succeeds) (haudit : ∀ line, (e.audit line).Succeeds)
    {workers : Int} (hpos : 1 ≤ workers) (s : Schedule) {options : RunOptions}
    (hsum : options.checksum.IsPlain) {jobs : List Job} (hjobs : ∀ job ∈ jobs, ∃ t, job.nodeId = .str t)
    (hnames : ∀ job ∈ jobs, job.IsNamed) {skipped : List Value} (hskipped : ∀ v ∈ skipped, ∃ t, v = .str t)
    (j : Journal σ) :
    ∃ results j', (e.runOn (.int workers) s options jobs skipped).exec j =
        (.ok (.ofResults results skipped options.dryRun), j') ∧
      List.Forall₂ (fun job r => r.untimed = jobResult script (.schedule s) options.dryRun job) jobs results := by
  obtain ⟨results, j₁, hrun, hresults⟩ := exec_runAll (fun job hjob j =>
    exec_runJob hc hclock (.schedule s) options.dryRun (hnames job hjob) j) j
  have hids : ∀ r ∈ results, ∃ t, r.nodeId = .str t := by
    intro r hr
    obtain ⟨job, hjob, hresult⟩ := forall₂_exists_left hresults r hr
    have hid : r.nodeId = job.nodeId := by
      rw [← (jobResult_names script (.schedule s) options.dryRun job).1, ← hresult]
      rfl
    rw [hid]
    exact hjobs job hjob
  obtain ⟨j', hconclude⟩ := exec_conclude hnow haudit s options hsum hskipped hids j₁
  refine ⟨results, j', ?_, hresults⟩
  rw [runOn, Executor.run_eq_runAll hpos, Action.exec_bind_ok hrun, hconclude]

/-- What is done with some jobs from one journal to another is done on a number of workers: it is one of the
runs on so many workers, and gives its results. -/
def RunsOn (e : Engine σ) (workers : Nat) (s : Schedule) (dryRun : Bool) (jobs : List Job) (j : Journal σ)
    (results : List TargetResult) (j' : Journal σ) : Prop :=
  ∃ es p, Executor.Serial (fun _ => false) (e.runJob (.schedule s) dryRun) jobs 0 j es j' ∧
    Executor.Pool.Run jobs workers false es p ∧ p.Ended jobs workers ∧ p.results = results.map some

/-- Jobs whose devices have names are run on the number of workers that the executor is given. -/
theorem exec_run_runsOn {e : Engine σ} (hclock : e.clock.Succeeds) {workers : Int} (hpos : 1 ≤ workers)
    (s : Schedule) (dryRun : Bool) {jobs : List Job}
    (hnames : ∀ job ∈ jobs, job.target.deviceName.hasText = true) (j : Journal σ) :
    ∃ results j', (Executor.run (.int workers) (pure false) (e.runJob (.schedule s) dryRun) jobs).exec j =
        (.ok results, j') ∧
      e.RunsOn workers.toNat s dryRun jobs j results j' := by
  obtain ⟨n, rfl⟩ := Int.eq_ofNat_of_zero_le (Int.le_of_lt hpos)
  have hworks : Executor.Works (fun _ => false) (e.runJob (.schedule s) dryRun) jobs := by
    intro job hjob j
    obtain ⟨r, j', hr⟩ := succeeds_runJob hclock (.schedule s) dryRun (fun _ _ => hnames job hjob) j
    exact ⟨r, j', hr, nofun⟩
  obtain ⟨results, j', es, p, hrun, hserial, hpool, hended, hresults⟩ :=
    Executor.run_interleaves (fun j => ⟨j, rfl, rfl⟩) (Int.ofNat_le.1 hpos) hworks hnames j
  exact ⟨results, j', hrun, es, p, hserial, hpool, hended, hresults⟩

end Engine

namespace Service

/-- A service applies a configuration that can be applied by running a job for each port of a device that is
served, on the workers of its settings.  What it does before leaves the state as it was. -/
theorem exec_apply_of_resolves {svc : Service σ} {inv : Inventory} (hstore : svc.store = inv.store)
    (hmodels : ∀ id, svc.engine.models id = Action.ofExcept (inv.model id)) {name : Value} {s : Schedule}
    {t : Topology} (hr : Resolves inv name s t) {sum : Value} (hsum : inv.store.checksum name = .ok sum)
    (hnames : ∀ node ∈ t.nodes, svc.engine.Names inv.knownModel node) (dryRun : Bool) (j : Journal σ) :
    ∃ jobs j', List.Forall₂ (svc.engine.IsJob inv.knownModel) (svc.engine.targets t.nodes) jobs ∧
      j'.world = j.world ∧
      (svc.apply name dryRun).exec j = (do
        let outcome ← svc.engine.runOn svc.engine.settings.maxWorkers s ⟨dryRun, sum⟩ jobs
          (svc.engine.unserved t.nodes)
        Action.ofExcept (Response.ofOutcome outcome) : Action σ Response).exec j' := by
  obtain ⟨jobs, j₁, hbuild, hjobs, hworld⟩ := Engine.exec_buildJobs_keeps t.nodes (hr.knows hmodels id)
    hr.protocols hnames hr.tellsSecret j
  obtain ⟨j', happly, hworld'⟩ := Engine.exec_apply_of_jobs hbuild s ⟨dryRun, sum⟩
  refine ⟨jobs, j', hjobs, hworld'.trans hworld, ?_⟩
  rw [apply_eq (hstore ▸ hr.resolve), hstore, hsum, Action.exec_bind_ok (Action.exec_ofExcept _ j),
    Action.exec_bind, happly, ← Action.exec_bind]

/-- Where a rollout cannot be carried out, a service fails. -/
theorem exec_apply_of_cannot {svc : Service σ} {inv : Inventory} (hstore : svc.store = inv.store)
    (hmodels : ∀ id, svc.engine.models id = Action.ofExcept (inv.model id)) {name : Value} {s : Schedule}
    {t : Topology} (hr : Resolves inv name s t) {sum : Value} (hsum : inv.store.checksum name = .ok sum)
    (hclock : svc.engine.clock.Succeeds) {workers : Int} (hw : svc.engine.settings.maxWorkers = .int workers)
    (hpos : 1 ≤ workers) (hcan : ¬svc.engine.CanRun inv.knownModel t.nodes) (dryRun : Bool) (j : Journal σ) :
    ∃ j', (svc.apply name dryRun).exec j = (.error .unwritten, j') := by
  obtain ⟨j', hexec⟩ := Engine.exec_apply_of_not_canRun (s := s) hclock hw hpos
    t.nodes (hr.knows hmodels id) hr.protocols hcan hr.tellsSecret j
  rw [apply_eq (hstore ▸ hr.resolve), hstore, hsum, Action.exec_bind_ok (Action.exec_ofExcept _ j)]
  exact ⟨j', Action.exec_bind_error hexec _⟩

end Service

namespace CommandLine

/-! ## What is said about workers -/

/-- What the environment says about the number of workers: the integer in its variable, or eight where the
variable is not given. -/
inductive SaysWorkers (env : Environment) : Int → Prop
  | nothing (h : env.given? "TSNCONF_MAX_WORKERS" = none) : SaysWorkers env 8
  | number {text : String} {n : Int} (h : env.given? "TSNCONF_MAX_WORKERS" = some text)
      (reads : Text.readInt text.toList = .ok n) : SaysWorkers env n

/-- What the environment says about everything else is acceptable. -/
structure IsValidBesides (env : Environment) : Prop where
  rpcTimeout : ∃ v, Settings.numberIn env "TSNCONF_RPC_TIMEOUT" (.int 30) = .ok v
  connectTimeout : ∃ v, Settings.numberIn env "TSNCONF_CONNECT_TIMEOUT" (.int 10) = .ok v
  connectRetries : ∃ n : Int, Settings.integerIn env "TSNCONF_CONNECT_RETRIES" (.int 3) = .ok (.int n) ∧ 1 ≤ n

/-- The number of workers that is wanted where the environment says some number: that of the command line,
unless it is zero. -/
def wantedWorkers (workers : Option Int) (said : Int) : Int := (workers.filter (· != 0)).getD said

variable {env : Environment} {i : Invocation} {id : String} {dryRun : Bool} {workers : Option Int} {said : Int}

theorem SaysWorkers.integerIn (h : SaysWorkers env said) :
    Settings.integerIn env "TSNCONF_MAX_WORKERS" (.int 8) = .ok (.int said) := by
  cases h with
  | nothing h => rw [Settings.integerIn, h]
  | number h reads =>
    rw [Settings.integerIn, h]
    simp only [reads]

theorem IsValidBesides.ofEnvironment (hvalid : IsValidBesides env) (h : SaysWorkers env said) :
    ∃ s : Settings, s.maxWorkers = .int said ∧ (∃ n : Int, s.connectRetries = .int n ∧ 1 ≤ n) ∧
      Settings.ofEnvironment env = if said < 1 then .error (Settings.tooSmall "max_workers") else .ok s := by
  obtain ⟨rpcTimeout, hrpc⟩ := hvalid.rpcTimeout
  obtain ⟨connectTimeout, hconnect⟩ := hvalid.connectTimeout
  obtain ⟨retries, hretries, hpos⟩ := hvalid.connectRetries
  let s : Settings :=
    { maxWorkers := .int said, rpcTimeout, connectTimeout, connectRetries := .int retries
      inventoryPath := Settings.textIn env "TSNCONF_INVENTORY"
      auditDirectory := Settings.textIn env "TSNCONF_AUDIT_DIR" }
  refine ⟨s, rfl, ⟨retries, rfl, hpos⟩, ?_⟩
  rw [← Settings.check_of_ints (s := s) rfl rfl hpos, Settings.ofEnvironment]
  simp only [h.integerIn, hrpc, hconnect, hretries]
  rfl

/-- The settings of a command are those of the environment, with an inventory of its own and with the number of
workers that it says. -/
theorem settings_eq {s : Settings} (hs : Settings.ofEnvironment env = .ok s) (i : Invocation) :
    ∃ s' : Settings, s'.maxWorkers = s.maxWorkers ∧ s'.connectRetries = s.connectRetries ∧
      i.settings env = i.workers?.elim (.ok s') fun n => Settings.check { s' with maxWorkers := .int n } := by
  have hwith : ∀ s' : Settings,
      ((i.inventory.filter fun p => !p.isEmpty).elim s fun p => { s with inventoryPath := .str p }) = s' →
      i.settings env = i.workers?.elim (.ok s') fun n => Settings.check { s' with maxWorkers := .int n } := by
    rintro _ rfl
    rw [Invocation.settings, hs]
    cases i.inventory.filter fun p => !p.isEmpty <;> cases i.workers? <;> rfl
  cases hinventory : i.inventory.filter fun p => !p.isEmpty with
  | none => exact ⟨s, rfl, rfl, hwith s (by rw [hinventory, Option.elim_none])⟩
  | some p =>
    exact ⟨{ s with inventoryPath := .str p }, rfl, rfl, hwith _ (by rw [hinventory, Option.elim_some])⟩

/-- Where both the environment and the command line say a positive number, the settings have the one that is
wanted; otherwise there are no settings. -/
theorem IsValidBesides.settings (hvalid : IsValidBesides env) (h : SaysWorkers env said)
    (hi : i.command = .apply id dryRun workers) :
    (said < 1 ∨ wantedWorkers workers said < 1 →
      i.settings env = .error (Settings.tooSmall "max_workers")) ∧
    (1 ≤ said → 1 ≤ wantedWorkers workers said →
      ∃ s, i.settings env = .ok s ∧ s.maxWorkers = .int (wantedWorkers workers said)) := by
  obtain ⟨s, hsaid, ⟨retries, hretries, hpos⟩, henv⟩ := hvalid.ofEnvironment h
  by_cases hbelow : said < 1
  · rw [if_pos hbelow] at henv
    refine ⟨fun _ => ?_, fun hs => absurd hbelow (Int.not_lt.2 hs)⟩
    rw [Invocation.settings, henv]
    rfl
  rw [if_neg hbelow] at henv
  obtain ⟨s', hworkers', hretries', hsettings⟩ := settings_eq henv i
  have hworkers : i.workers? = workers.filter (· != 0) := by rw [Invocation.workers?, hi]
  rw [hsettings, hworkers, wantedWorkers]
  cases workers.filter (· != 0) with
  | none =>
    exact ⟨fun hless => absurd ((or_self_iff).1 hless) hbelow, fun _ _ => ⟨s', rfl, hworkers'.trans hsaid⟩⟩
  | some n =>
    have hcheck := Settings.check_of_ints (s := { s' with maxWorkers := .int n }) rfl
      (hretries'.trans hretries) hpos
    refine ⟨fun hless => ?_, fun _ hn => ?_⟩
    · exact hcheck.trans (if_pos (hless.resolve_left hbelow))
    · exact ⟨_, hcheck.trans (if_neg (Int.not_lt.2 hn)), rfl⟩

/-! ## How the command ends -/

/-- How a command ends whose settings are not acceptable. -/
def refusal (reason : String) : Ending := { code := 1, report := some s!"Invalid settings: {reason}" }

/-- How applying a configuration ends, by the answer of the service or the failure in its place. -/
def endingOf (dryRun : Bool) (answer : Except Failure Response) : Except Failure Ending :=
  match answer with
  | .ok r => .ok (.ofResponse dryRun r)
  | .error f => (Ending.ofFailure? f).elim (.error f) .ok

variable {h : Host σ} {d : Netconf.Dialer σ} {j j₁ : Journal σ}

/-- Where the settings are not acceptable, a command reports that, and nothing else happens. -/
theorem exec_run_of_refused {reason : String}
    (hs : i.settings h.environment = .error (.fault ⟨.wrongValue, reason⟩)) (j : Journal σ) :
    (run h d i).exec j = (.ok (refusal reason), j) := by
  have hcarried : (do carryOut h d (← Action.ofExcept (i.settings h.environment)) i.command :
      Action σ Ending).exec j = (.error (.fault ⟨.wrongValue, reason⟩), j) := by
    rw [hs]
    rfl
  rw [run, Action.exec_bind_ok (Action.exec_attempt _ j), hcarried]
  rfl

/-- The service that a command works with, on a log and an inventory. -/
def serviceOn (h : Host σ) (d : Netconf.Dialer σ) (s : Settings) (log : String) (inv : Inventory) :
    Service σ where
  store := inv.store
  engine :=
    { registry := ⟨[("netconf", shipped)]⟩
      models := fun id => Action.ofExcept (inv.model id)
      connector := Netconf.connector d s
      settings := s
      environment := h.environment
      clock := h.clock
      now := h.now
      audit := AuditLog.write h log }

/-- A command finds a log and an inventory. -/
def Finds (h : Host σ) (s : Settings) (log : String) (inv : Inventory) (j j₂ : Journal σ) : Prop :=
  ∃ j₁, (AuditLog.setUp h s.auditDirectory).exec j = (.ok log, j₁) ∧
    (Inventory.load h s.inventoryPath).exec j₁ = (.ok inv, j₂)

theorem exec_serviceFor (d : Netconf.Dialer σ) {s : Settings} (log : String) {inv : Inventory}
    (hinv : (Inventory.load h s.inventoryPath).exec j = (.ok inv, j₁)) :
    ∃ j', (serviceFor h d s log).exec j = (.ok (serviceOn h d s log inv), j') ∧ j'.world = j₁.world := by
  rw [serviceFor, Action.exec_bind_ok hinv]
  exact ⟨_, rfl, rfl⟩

/-- Applying a configuration with settings that are acceptable ends by the answer of the service. -/
theorem exec_run_apply (hi : i.command = .apply id dryRun workers) {s : Settings}
    (hs : i.settings h.environment = .ok s) {log : String} {inv : Inventory} (hfinds : Finds h s log inv j j₁) :
    ∃ j', j'.world = j₁.world ∧ (run h d i).exec j =
      (endingOf dryRun (((serviceOn h d s log inv).apply (.str id) dryRun).exec j').1,
        (((serviceOn h d s log inv).apply (.str id) dryRun).exec j').2) := by
  obtain ⟨j₀, hlog, hinv⟩ := hfinds
  obtain ⟨j', hservice, hworld⟩ := exec_serviceFor d log hinv
  refine ⟨j', hworld, ?_⟩
  let service : Action σ (Service σ) := do serviceFor h d s (← AuditLog.setUp h s.auditDirectory)
  have hset : service.exec j = (.ok (serviceOn h d s log inv), j') := by
    rw [Action.exec_bind_ok hlog, hservice]
  have happly : carryOut h d s i.command = (do
      return .ofResponse dryRun (← (← service).apply (.str id) dryRun)) := by
    rw [hi]
    rfl
  rw [exec_run d hs, happly, Action.exec_bind_ok hset, Action.exec_bind]
  rcases ((serviceOn h d s log inv).apply (.str id) dryRun).exec j' with ⟨f | r, k⟩ <;> rfl

/-- That the variable of the environment holds a text which is no integer. -/
def noInteger (text : String) : String := "TSNCONF_MAX_WORKERS" ++ " must be an integer, got " ++ Text.quoted text

theorem settings_of_no_integer {text : String} (htext : env.given? "TSNCONF_MAX_WORKERS" = some text)
    (hno : ∀ n, Text.readInt text.toList ≠ .ok n) (i : Invocation) :
    i.settings env = .error (.fault ⟨.wrongValue, noInteger text⟩) := by
  have hread : Settings.integerIn env "TSNCONF_MAX_WORKERS" (.int 8) =
      .error (.fault ⟨.wrongValue, noInteger text⟩) := by
    rw [Settings.integerIn, htext]
    cases hreads : Text.readInt text.toList with
    | ok n => exact absurd hreads (hno n)
    | error e =>
      simp only [hreads]
      rfl
  rw [Invocation.settings, Settings.ofEnvironment]
  simp only [hread]
  rfl

/-! ## An inventory in a file -/

/-- A document with a device with one port and a configuration, all in quotes. -/
def quotedText : String :=
  "\x7b\"nodes\": \x7b\"a\": \x7b\"management\": \x7b\"host\": \"h\"\x7d, \"ports\": [\"p\"], \"modules\": " ++
    "[[\"ieee802-dot1q-sched\", \"2021-02-08\"], [\"ieee802-dot1q-sched-bridge\", \"2021-02-08\"]]\x7d\x7d, " ++
    "\"configurations\": \x7b\"c\": \x7b\"base_time_ns\": \"0\", \"cycle_time_ns\": \"1\", \"entries\": []\x7d\x7d\x7d"

/-- The device in it. -/
def quotedNode : Entries :=
  [(.str "management", .map [(.str "host", .str "h")]), (.str "ports", .list [.str "p"]),
    (.str "modules", .list [.list [.str "ieee802-dot1q-sched", .str "2021-02-08"],
      .list [.str "ieee802-dot1q-sched-bridge", .str "2021-02-08"]])]

/-- The configuration in it. -/
def quotedConfiguration : Entries :=
  [(.str "base_time_ns", .str "0"), (.str "cycle_time_ns", .str "1"), (.str "entries", .list [])]

/-- Its data. -/
def quotedValue : Value :=
  .map [(.str "nodes", .map [(.str "a", .map quotedNode)]),
    (.str "configurations", .map [(.str "c", .map quotedConfiguration)])]

/-- The inventory that comes of it. -/
def quotedInventory : Inventory where
  nodes := [(.str "a", quotedNode)]
  configurations := [(.str "c", .map quotedConfiguration)]

theorem read_quotedText : Yaml.read quotedText = .ok quotedValue := by
  have hsame : (match Yaml.read quotedText with
    | .ok v => v.isSame quotedValue
    | .error _ => false) = true := by decide +kernel
  split at hsame
  case h_1 v hv => rw [hv, Value.eq_of_isSame hsame]
  case h_2 => cases hsame

theorem ofBytes_quotedText (path : String) :
    Inventory.ofBytes Yaml.reader path quotedText.toUTF8.toList = .ok quotedInventory := by
  refine bind_eq_ok.2 ⟨quotedText, ?_, bind_eq_ok.2 ⟨quotedValue, ?_, rfl⟩⟩
  · rw [Text.decodeUtf8_toUTF8]
    rfl
  · rw [Yaml.reader, read_quotedText]
    rfl

/-- A host with nothing in its environment and with one text for every file. -/
def quotedHost : Host Unit where
  environment := []
  homeDirectory := "/root"
  workingDirectory := "/"
  hasFile _ := return true
  readFile _ := return quotedText.toUTF8.toList
  appendFile _ _ := return ()
  move _ _ := return ()
  makeDirectories _ := return ()
  clock := return .int 0
  now := return ⟨⟨2024, 1, 1⟩, 0, 0, 0, 0, none⟩
  readDocument := Yaml.reader

/-- A layer below whose lines open, grant everything and close. -/
def obliging : Netconf.Dialer Unit where
  dial _ := return ⟨fun _ _ _ => return ⟨some true, "", ""⟩, fun _ _ => return ⟨some true, "", ""⟩, return ()⟩
  sleep _ := return ()
  warning _ f := f.text

/-- Sessions to all devices that can be told of open, accept every edit and close. -/
def willing : SessionScript where
  opens target := if Netconf.HasTexts target.management then .ok () else .error .unwritten
  edits _ _ := .ok ()
  closes _ := .ok ()

theorem obliging_follows (workers path : Value) :
    (Netconf.connector obliging { maxWorkers := workers, inventoryPath := path }).Follows willing := by
  have hb : Backoff.ofSettings { maxWorkers := workers, inventoryPath := path } =
      .ok ⟨3, .seconds 1, .seconds 10⟩ := rfl
  constructor
  · intro target f hf j
    simp only [willing] at hf
    split at hf
    · cases hf
    case isFalse ht =>
      obtain rfl := Except.error.inj hf
      exact congrArg Prod.fst (Action.exec_bind_error (Netconf.exec_connect_untold obliging hb ht j) _)
  · intro target ho j
    simp only [willing] at ho
    split at ho
    case isTrue ht =>
      obtain ⟨j₁, -, hconnect⟩ := Netconf.exec_connect obliging hb ht j
      obtain ⟨j', -, hexec⟩ := hconnect _ j₁ rfl
      exact ⟨_, j', Action.exec_bind_ok hexec _, fun _ _ => rfl, fun _ => rfl⟩
    · cases ho

/-- Its schedule. -/
def quotedSchedule : Schedule := ⟨"c", 0, 1, .enabled, [], none⟩

/-- Its topology. -/
def quotedTopology : Topology where
  nodes := [⟨.str "a", { address := .str "h" }, [⟨"p"⟩]⟩]

theorem resolves_quoted : Service.Resolves quotedInventory (.str "c") quotedSchedule quotedTopology where
  schedule := rfl
  topology := rfl
  ids := by
    intro id hid
    obtain rfl := List.mem_singleton.1 hid
    rfl
  protocols := by
    intro node hnode
    obtain rfl := List.mem_singleton.1 hnode
    exact ⟨_, rfl⟩
  passwords := by
    intro node hnode
    obtain rfl := List.mem_singleton.1 hnode
    exact ⟨_, rfl⟩

/-- The path of the inventory. -/
def quotedPath : String := "inventory.yaml"

theorem load_quoted (j : Journal Unit) :
    ∃ j', (Inventory.load quotedHost (.str quotedPath)).exec j = (.ok quotedInventory, j') := by
  have hlocate : (Inventory.locate quotedHost (.str quotedPath)).exec j = (.ok (.str quotedPath), j) := rfl
  have hcontent : (Inventory.contentOf quotedHost quotedPath).exec j = (.ok quotedText.toUTF8.toList, j) := rfl
  have hread : Inventory.ofBytes quotedHost.readDocument quotedPath quotedText.toUTF8.toList =
      .ok quotedInventory := ofBytes_quotedText quotedPath
  rw [Inventory.load, Action.exec_bind_ok hlocate]
  dsimp only
  rw [Action.exec_bind_ok hcontent, hread]
  exact ⟨_, rfl⟩

/-- The audit log. -/
def quotedLog : String := AuditLog.pathIn (AuditLog.defaultDirectory quotedHost)

theorem finds_quoted (workers : Value) (j : Journal Unit) :
    ∃ j', Finds quotedHost { maxWorkers := workers, inventoryPath := .str quotedPath } quotedLog quotedInventory
      j j' := by
  obtain ⟨j', hload⟩ := load_quoted j
  exact ⟨j', j, rfl, hload⟩

/-- A command that applies the configuration in the inventory, perhaps on a number of workers. -/
def quotedCommand (workers : Option Int) : Invocation := ⟨some quotedPath, false, .apply "c" false workers⟩

theorem isValidBesides_quoted : IsValidBesides quotedHost.environment where
  rpcTimeout := ⟨_, rfl⟩
  connectTimeout := ⟨_, rfl⟩
  connectRetries := ⟨3, rfl, by decide⟩

theorem checksum_quoted : ∃ c, quotedInventory.store.checksum (.str "c") = .ok (.str c) := by
  obtain ⟨c, hc⟩ := Checksum.ofDocument_ok (show (Value.map quotedConfiguration).hasTextKeys = true from rfl) rfl
  exact ⟨c, bind_eq_ok.2 ⟨_, rfl, bind_eq_ok.2 ⟨_, hc, rfl⟩⟩⟩

/-- The job of the port. -/
def quotedJob : Job where
  nodeId := .str "a"
  target := ⟨{ address := .str "h" }, .str "", "p", .str "a"⟩
  backend := shipped
  model := .ok ⟨Plugin.standard.required⟩

theorem status_quotedJob :
    (Engine.jobResult willing (.schedule quotedSchedule) false quotedJob).status = .success := by
  have hfilter : [Plugin.standard, .legacy].filter (·.isSupportedBy ⟨Plugin.standard.required⟩) =
      [.standard] := by decide
  have hselected : shipped.selected (.str Schedule.feature) ⟨Plugin.standard.required⟩ = .ok .standard :=
    Backend.selected_of_filter hfilter
  have hv : Plugin.standard.IsVariant := ⟨Plugin.standard.required, .inl rfl⟩
  obtain ⟨table, htable⟩ : ∃ t, Plugin.standard.mapped (.schedule quotedSchedule) = .ok (.table t) := ⟨_, rfl⟩
  obtain ⟨text, htext⟩ := hv.payload_ok (hv.isWritten_of_mapped htable)
  have hsent : Plugin.standard.sent (.table table) quotedJob.target = .ok (text "p") :=
    hv.sent_eq_ok.2 ⟨htext quotedJob.target, Value.hasText_str⟩
  have hprepared : quotedJob.backend.prepared (.schedule quotedSchedule) ⟨Plugin.standard.required⟩
      quotedJob.target = .ok (.standard, text "p") := by
    rw [show quotedJob.backend = shipped from rfl, Backend.prepared_of_selected hselected, htable]
    change (Plugin.standard.sent (.table table) quotedJob.target).mapError _ >>= _ = _
    rw [hsent]
    rfl
  have hending : Engine.pushEnding willing (.schedule quotedSchedule) ⟨Plugin.standard.required⟩
      quotedJob = (some Plugin.standard.name, .ok none) := by
    rw [Engine.pushEnding, hprepared]
    rfl
  rw [Engine.jobResult, show quotedJob.model = .ok ⟨Plugin.standard.required⟩ from rfl]
  simp only [Bool.false_eq_true, if_false, hending]
  rfl

theorem eq_quotedJob {s : Settings} {log : String} {jobs : List Job} :
    let e := (serviceOn quotedHost obliging s log quotedInventory).engine
    List.Forall₂ (e.IsJob quotedInventory.knownModel) (e.targets quotedTopology.nodes) jobs → jobs = [quotedJob] := by
  intro e hjobs
  have htargets : e.targets quotedTopology.nodes =
      [(⟨.str "a", { address := .str "h" }, [⟨"p"⟩]⟩, ⟨"p"⟩)] := rfl
  rw [htargets] at hjobs
  obtain ⟨job, rest, hjob, hrest, rfl⟩ := List.forall₂_cons_left_iff.1 hjobs
  obtain rfl := List.forall₂_nil_left_iff.1 hrest
  obtain ⟨backend, secret, hbackend, hsecret, rfl⟩ := hjob
  obtain rfl : shipped = backend := Option.some.inj (Except.ok.inj hbackend)
  obtain rfl : Value.str "" = secret := Except.ok.inj hsecret
  rfl

theorem canRun_quoted (e : Engine Unit) : e.CanRun quotedInventory.knownModel quotedTopology.nodes := by
  intro node hnode
  obtain rfl := List.mem_singleton.1 hnode
  exact .inl Value.hasText_str

/-- With settings that are acceptable, the configuration is applied to the port. -/
theorem exec_run_quoted {workers : Option Int} {n : Int}
    (hs : (quotedCommand workers).settings quotedHost.environment =
      .ok { maxWorkers := .int n, inventoryPath := .str quotedPath }) (hpos : 1 ≤ n) (j : Journal Unit) :
    ∃ ending j', (run quotedHost obliging (quotedCommand workers)).exec j = (.ok ending, j') ∧ ending.code = 0 := by
  let svc := serviceOn quotedHost obliging { maxWorkers := .int n, inventoryPath := .str quotedPath } quotedLog
    quotedInventory
  let skipped := svc.engine.unserved quotedTopology.nodes
  obtain ⟨j₁, hfinds⟩ := finds_quoted (.int n) j
  obtain ⟨j₂, -, hrun⟩ := exec_run_apply (d := obliging) rfl hs hfinds
  obtain ⟨c, hc⟩ := checksum_quoted
  have hstore : svc.store = quotedInventory.store := rfl
  obtain ⟨jobs, j₃, hjobs, -, happly⟩ :=
    Service.exec_apply_of_resolves hstore (fun _ => rfl) resolves_quoted hc (canRun_quoted _).names false j₂
  obtain rfl := eq_quotedJob hjobs
  have hids : ∀ job ∈ [quotedJob], ∃ t, job.nodeId = .str t := List.forall_mem_singleton.2 ⟨"a", rfl⟩
  have hnames : ∀ job ∈ [quotedJob], job.IsNamed := List.forall_mem_singleton.2 fun _ _ => Value.hasText_str
  have hskipped : ∀ v ∈ skipped, ∃ t, v = .str t := List.forall_mem_nil _
  obtain ⟨results, j₄, hon, hresults⟩ := Engine.exec_runOn (e := svc.engine) (obliging_follows _ _)
    (Action.quiet_pure _).succeeds (Action.quiet_pure _).succeeds (fun _ => AuditLog.succeeds_write _ _ _) hpos
    quotedSchedule (show (⟨false, .str c⟩ : RunOptions).checksum.IsPlain from .str c) hids hnames hskipped j₃
  obtain ⟨r, rest, hr, hrest, rfl⟩ := List.forall₂_cons_left_iff.1 hresults
  obtain rfl := List.forall₂_nil_left_iff.1 hrest
  have hsuccess : r.status = .success := (congrArg TargetResult.status hr).trans status_quotedJob
  rcases Outcome.summary_cases [r] skipped false with ⟨-, message, hmessage⟩ | ⟨hn, -⟩
  swap
  · exact absurd hskipped hn
  have hanswer : (svc.apply (.str "c") false).exec j₂ = (Response.ofOutcome (.ofResults [r] skipped false), j₄) := by
    rw [happly]
    exact Action.exec_bind_ok hon _
  have hresponse : Response.ofOutcome (.ofResults [r] skipped false) =
      .ok ⟨OutcomeStatus.ofResults [r] == .applied, message, .ofResults [r] skipped false⟩ := by
    rw [Response.ofOutcome, hmessage]
    rfl
  have happlied : OutcomeStatus.ofResults [r] = .applied := by
    simp [OutcomeStatus.ofResults, TargetResult.isSuccess, hsuccess]
  refine ⟨_, j₄, by rw [hrun, hanswer, hresponse]; rfl, ?_⟩
  change Ending.codeOf (OutcomeStatus.ofResults [r]) = 0
  rw [happlied]
  rfl

/-! ## The number is honoured or refused -/

/-- Where the environment is otherwise acceptable, a command that applies a configuration which resolves runs its
jobs on exactly the number of workers that is wanted, and nothing is done at the devices before; only where
the devices cannot be told of, it fails instead.  When that number or the one in the environment is below one,
or when the environment says none, the command ends with exit code one, and nothing is done at all.  The
number that is wanted is that of the arguments, unless it is zero; a number with more digits than are
converted is no argument. -/
theorem workers_honoured_or_refused {h : Host σ} (d : Netconf.Dialer σ) {i : Invocation} {id : String}
    {dryRun : Bool} {workers : Option Int} (hi : i.command = .apply id dryRun workers)
    (hvalid : IsValidBesides h.environment) :
    (∀ said, SaysWorkers h.environment said →
      (said < 1 ∨ wantedWorkers workers said < 1 →
        ∀ j, (run h d i).exec j = (.ok (refusal "max_workers must be at least 1"), j)) ∧
      (1 ≤ said → 1 ≤ wantedWorkers workers said →
        ∃ s, i.settings h.environment = .ok s ∧ s.maxWorkers = .int (wantedWorkers workers said) ∧
          ∀ log inv j j₁ schedule t sum, Finds h s log inv j j₁ →
            Service.Resolves inv (.str id) schedule t → inv.store.checksum (.str id) = .ok sum →
            let e := (serviceOn h d s log inv).engine
            (e.CanRun inv.knownModel t.nodes →
              ∃ jobs j', List.Forall₂ (e.IsJob inv.knownModel) (e.targets t.nodes) jobs ∧ j'.world = j₁.world ∧
                (let answer := (do
                  let outcome ← e.runOn (.int (wantedWorkers workers said)) schedule ⟨dryRun, sum⟩ jobs
                    (e.unserved t.nodes)
                  Action.ofExcept (Response.ofOutcome outcome) : Action σ Response).exec j'
                (run h d i).exec j = (endingOf dryRun answer.1, answer.2)) ∧
                (h.clock.Succeeds →
                  ∃ results k, (Executor.run (.int (wantedWorkers workers said)) (pure false)
                      (e.runJob (.schedule schedule) dryRun) jobs).exec j' = (.ok results, k) ∧
                    e.RunsOn (wantedWorkers workers said).toNat schedule dryRun jobs j' results k)) ∧
            (h.clock.Succeeds → ¬e.CanRun inv.knownModel t.nodes →
              ∃ j', (run h d i).exec j = (endingOf dryRun (.error .unwritten), j')))) ∧
    (∀ text, h.environment.given? "TSNCONF_MAX_WORKERS" = some text →
      (∀ n, Text.readInt text.toList ≠ .ok n) →
        ∀ j, (run h d i).exec j = (.ok (refusal (noInteger text)), j)) ∧
    ∀ name, IsPlainWord name →
      Invocation.ofArguments (applyArguments name none) = .ok ⟨none, false, .apply name false none⟩ ∧
      ∀ n, (Text.numeralLength n ≤ Text.maxNumeralDigits →
          Invocation.ofArguments (applyArguments name (some n)) =
            .ok ⟨none, false, .apply name false (some n)⟩) ∧
        (Text.maxNumeralDigits < Text.numeralLength n →
          Invocation.ofArguments (applyArguments name (some n)) = .error .usage) := by
  refine ⟨fun said hsaid => ?_, fun text htext hno j => ?_, fun name hname => ?_⟩
  · obtain ⟨hrefused, hsettings⟩ := hvalid.settings hsaid hi
    refine ⟨fun hless j => exec_run_of_refused (hrefused hless) j, fun hpos hwanted => ?_⟩
    obtain ⟨s, hs, hworkers⟩ := hsettings hpos hwanted
    refine ⟨s, hs, hworkers, ?_⟩
    intro log inv j j₁ schedule t sum hfinds hr hsum e
    obtain ⟨j₂, hworld, hrun⟩ := exec_run_apply (d := d) hi hs hfinds
    have hstore : (serviceOn h d s log inv).store = inv.store := rfl
    have hsame : (serviceOn h d s log inv).engine.settings.maxWorkers = .int (wantedWorkers workers said) :=
      hworkers
    refine ⟨fun hcan => ?_, fun hclock hcannot => ?_⟩
    · obtain ⟨jobs, j', hjobs, hworld', happly⟩ :=
        Service.exec_apply_of_resolves hstore (fun _ => rfl) hr hsum hcan.names dryRun j₂
      refine ⟨jobs, j', hjobs, hworld'.trans hworld, by rw [hrun, happly, hsame], fun hclock => ?_⟩
      have hnames := hcan.hasText_deviceName (Inventory.hasText_address hr.topology) hjobs
      exact Engine.exec_run_runsOn hclock hwanted schedule dryRun hnames j'
    · obtain ⟨j', hfails⟩ := Service.exec_apply_of_cannot hstore (fun _ => rfl) hr hsum hclock hsame hwanted
        hcannot dryRun j₂
      exact ⟨j', by rw [hrun, hfails]⟩
  · exact exec_run_of_refused (settings_of_no_integer htext hno i) j
  · exact ⟨ofArguments_apply_none hname, fun n => ⟨ofArguments_apply_some hname, ofArguments_apply_long hname⟩⟩

/-- The configuration is applied on two workers, and refused on minus one. -/
theorem workers_honoured_or_refused_of_two :
    let s : Settings := { maxWorkers := .int 2, inventoryPath := .str quotedPath }
    let e := (serviceOn quotedHost obliging s quotedLog quotedInventory).engine
    (∀ j, (run quotedHost obliging (quotedCommand (some (-1)))).exec j =
      (.ok (refusal "max_workers must be at least 1"), j)) ∧
    (quotedCommand (some 2)).settings quotedHost.environment = .ok s ∧
    ∀ j, ∃ sum j', let answer := (do
        let outcome ← e.runOn (.int 2) quotedSchedule ⟨false, sum⟩ [quotedJob] []
        Action.ofExcept (Response.ofOutcome outcome) : Action Unit Response).exec j'
      (run quotedHost obliging (quotedCommand (some 2))).exec j = (endingOf false answer.1, answer.2) ∧
        ∃ results k, e.RunsOn 2 quotedSchedule false [quotedJob] j' results k := by
  intro s e
  have hsays : SaysWorkers quotedHost.environment 8 := .nothing rfl
  obtain ⟨hrefuse, -⟩ := workers_honoured_or_refused obliging (i := quotedCommand (some (-1))) rfl
    isValidBesides_quoted
  obtain ⟨hhonour, -⟩ := workers_honoured_or_refused obliging (i := quotedCommand (some 2)) rfl
    isValidBesides_quoted
  obtain ⟨s', hs', -, hrun⟩ := (hhonour 8 hsays).2 (by decide) (by decide)
  have hs : (quotedCommand (some 2)).settings quotedHost.environment = .ok s := rfl
  obtain rfl := Except.ok.inj (hs'.symm.trans hs)
  refine ⟨(hrefuse 8 hsays).1 (.inr (by decide)), hs, fun j => ?_⟩
  obtain ⟨c, hc⟩ := checksum_quoted
  obtain ⟨j₁, hfinds⟩ := finds_quoted (.int 2) j
  obtain ⟨hruns, -⟩ := hrun quotedLog quotedInventory j j₁ _ _ _ hfinds resolves_quoted hc
  obtain ⟨jobs, j', hjobs, -, hexec, hpool⟩ := hruns (canRun_quoted _)
  obtain ⟨results, k, -, hruns⟩ := hpool (Action.quiet_pure _).succeeds
  obtain rfl := eq_quotedJob hjobs
  exact ⟨_, j', hexec, results, k, hruns⟩

/-- Zero workers on the command line are not refused: the configuration is applied as without them. -/
theorem zero_workers_not_refused :
    ¬∀ (h : Host Unit) (d : Netconf.Dialer Unit) (path id : String) (n : Int) (inv : Inventory) (schedule : Schedule)
      (t : Topology) (j j' : Journal Unit), IsValidBesides h.environment → SaysWorkers h.environment 8 →
        (Inventory.load h (.str path)).exec j = (.ok inv, j') → Service.Resolves inv (.str id) schedule t → n < 1 →
          ∃ ending j'', (run h d ⟨some path, false, .apply id false (some n)⟩).exec j = (.ok ending, j'') ∧
            ending.code = 1 := by
  intro hclaim
  obtain ⟨j', hload⟩ := load_quoted ⟨[], [], ()⟩
  obtain ⟨ending, k, hrefused, hone⟩ := hclaim quotedHost obliging quotedPath "c" 0 quotedInventory quotedSchedule
    quotedTopology _ _ isValidBesides_quoted (.nothing rfl) hload resolves_quoted (by decide)
  have hsettings : (quotedCommand (some 0)).settings quotedHost.environment =
      .ok { maxWorkers := .int 8, inventoryPath := .str quotedPath } := rfl
  obtain ⟨ending', k', happlied, hzero⟩ := exec_run_quoted hsettings (by decide) ⟨[], [], ()⟩
  obtain rfl := Except.ok.inj (Prod.mk.inj (happlied.symm.trans hrefused)).1
  rw [hone] at hzero
  cases hzero

end CommandLine

end GateRollout
