import GateRollout.Proofs.Digest.Checksum
import GateRollout.Proofs.Inventory.Models
import GateRollout.Proofs.Rollout.Trace
import GateRollout.Service

/-!
# Which rollouts are reported

The devices and the configurations of an inventory may have names of any kind, and so may the parts of a
configuration's document.  A service that applies a configuration takes the checksum of its document
first, and then goes to the devices, which it names in its messages.  It answers when there is a checksum,
the names have texts and the audit log and the summary take them, whatever the sessions do.  Otherwise it
fails: before all sessions where there is no checksum, but after them where a name is not taken.
-/

namespace GateRollout

namespace Service

variable {σ : Type} {svc : Service σ} {inv : Inventory} {trace : σ → List RolloutEvent}

/-- A service works on an inventory, and what it does is traced. -/
structure WorksOn (svc : Service σ) (inv : Inventory) (trace : σ → List RolloutEvent) : Prop where
  store : svc.store = inv.store
  models : ∀ id, svc.engine.models id = Action.ofExcept (inv.model id)
  traced : svc.engine.Traced trace
  workers : ∃ n : Int, svc.engine.settings.maxWorkers = .int n ∧ 1 ≤ n

/-- What can be applied is known: the names of the devices can be keys, there is a schedule, and all
devices are described, with texts for their protocols and for where their passwords are kept. -/
structure Resolves (inv : Inventory) (name : Value) (s : Schedule) (t : Topology) : Prop where
  schedule : inv.schedule name = .ok s
  topology : inv.topology = .ok t
  ids : ∀ id ∈ inv.nodeIds, id.unhashable? = none
  protocols : ∀ node ∈ t.nodes, ∃ p, node.management.protocol = .str p
  passwords : ∀ node ∈ t.nodes, ∃ v, node.management.passwordVariable = .str v

variable {name : Value} {s : Schedule} {t : Topology}

/-- What an engine needs to know about the devices, it gets to know from the inventory. -/
theorem Resolves.knows (hr : Resolves inv name s t) {e : Engine σ}
    (hmodels : ∀ id, e.models id = Action.ofExcept (inv.model id)) {τ : Type} (view : σ → τ) :
    ∀ node ∈ t.nodes, e.Knows inv.knownModel view node.id := by
  intro node hnode
  obtain ⟨hmodel, hstore⟩ := inv.model_eq_knownModel (hr.ids _ (Inventory.mem_nodeIds hr.topology node hnode))
  refine ⟨?_, hstore, ?_⟩
  · intro j
    rw [hmodels, hmodel]
    rfl
  · intro j
    rw [hmodels]
    rfl

/-- Where something that can be applied is served, it is told where the passwords are. -/
theorem Resolves.tellsSecret (hr : Resolves inv name s t) {e : Engine σ} :
    ∀ node ∈ t.nodes, e.serves node = true → node.management.TellsSecret := fun node hnode _ =>
  .inr (hr.passwords node hnode)

theorem Resolves.resolve (hr : Resolves inv name s t) : inv.store.resolve name = .ok (s, t) :=
  bind_eq_ok.2 ⟨s, hr.schedule, bind_eq_ok.2 ⟨t, hr.topology, rfl⟩⟩

/-- A configuration with a schedule has a document, and its checksum is that of the document. -/
theorem WorksOn.checksum_eq (h : svc.WorksOn inv trace) (hs : inv.schedule name = .ok s) :
    ∃ doc, inv.document name = .ok doc ∧
      svc.store.checksum name = (Checksum.ofDocument (.map doc)).map Value.str := by
  obtain ⟨named, hnamed, -⟩ := bind_eq_ok.1 hs
  obtain ⟨doc, hdoc, -⟩ := bind_eq_ok.1 hnamed
  refine ⟨doc, hdoc, ?_⟩
  rw [h.store]
  change (do return Value.str (← Checksum.ofDocument (.map (← inv.document name)))) = _
  rw [hdoc]
  change (do return Value.str (← Checksum.ofDocument (.map doc))) = _
  cases Checksum.ofDocument (.map doc) <;> rfl

theorem apply_eq (hres : svc.store.resolve name = .ok (s, t)) (dryRun : Bool) :
    svc.apply name dryRun = (do
      let checksum ← Action.ofExcept (svc.store.checksum name)
      let outcome ← svc.engine.apply (pure false) (.schedule s) t { dryRun, checksum }
      Action.ofExcept (Response.ofOutcome outcome)) := by
  rw [apply, hres]

theorem WorksOn.resolve (h : svc.WorksOn inv trace) (hr : Resolves inv name s t) :
    svc.store.resolve name = .ok (s, t) := by
  rw [h.store, hr.resolve]

/-- An answer tells the results of all ports of the devices that are served, and the devices that are not.
It says whether all ports were configured, and every result has its line in the audit log. -/
structure Tells (svc : Service σ) (s : Schedule) (t : Topology) (options : RunOptions)
    (results : List TargetResult) (lines : List String) (r : Response) : Prop where
  outcome : r.outcome = .ofResults results (svc.engine.unserved t.nodes) options.dryRun
  success : r.success = (OutcomeStatus.ofResults results == .applied)
  recorded : List.Forall₂ (Engine.Records s options) results lines

/-- With a checksum, the service goes to the devices where the rollout can be carried out, and answers if
their names can be reported. -/
theorem exec_apply_of_checksum (h : svc.WorksOn inv trace) (hr : Resolves inv name s t) {c : String}
    (hc : svc.store.checksum name = .ok (.str c)) (dryRun : Bool)
    (hcan : svc.engine.CanRun inv.knownModel t.nodes) (j : Journal σ) :
    ∃ x xs lines j', (svc.apply name dryRun).exec j = (x, j') ∧
      List.Forall₂ (Engine.Reports dryRun) (svc.engine.targets t.nodes) xs ∧
      trace j'.world = trace j.world ++ (xs.flatMap Prod.snd).map .session ++ lines.map .audited ∧
      (svc.engine.CanReport t.nodes →
        ∃ r, x = .ok r ∧ svc.Tells s t ⟨dryRun, .str c⟩ (xs.map Prod.fst) lines r) ∧
      (¬svc.engine.CanReport t.nodes → ∃ f, Json.IsWriteFault f ∧ x = .error (.fault f)) := by
  obtain ⟨n, hn, hpos⟩ := h.workers
  obtain ⟨x, xs, lines, j', hexec, hreports, htrace, hx⟩ :=
    Engine.exec_apply_traced (s := s) h.traced hn hpos t.nodes (hr.knows h.models trace) hr.protocols
      (Inventory.hasText_address hr.topology) hcan hr.tellsSecret
      (show (⟨dryRun, .str c⟩ : RunOptions).checksum.IsPlain from .str c) j
  rw [apply_eq (h.resolve hr), hc, Action.exec_bind_ok (Action.exec_ofExcept _ j)]
  rcases hx with ⟨hreport, rfl, hlines⟩ | ⟨hreport, f, hf, rfl⟩
  · rcases Outcome.summary_cases (xs.map Prod.fst) (svc.engine.unserved t.nodes) dryRun with
      ⟨-, message, hmessage⟩ | ⟨hn, -⟩
    · let r : Response := ⟨OutcomeStatus.ofResults (xs.map Prod.fst) == .applied, message,
        .ofResults (xs.map Prod.fst) (svc.engine.unserved t.nodes) dryRun⟩
      refine ⟨.ok r, xs, lines, j', ?_, hreports, htrace, fun _ => ⟨r, rfl, rfl, rfl, hlines⟩,
        fun hn => absurd hreport hn⟩
      rw [Action.exec_bind_ok hexec, Response.ofOutcome, hmessage]
      rfl
    · exact absurd hreport.unserved hn
  · exact ⟨_, xs, lines, j', Action.exec_bind_error hexec _, hreports, htrace, fun hr => absurd hr hreport,
      fun _ => ⟨f, hf, rfl⟩⟩

theorem exec_apply_of_not_canRun (h : svc.WorksOn inv trace) (hr : Resolves inv name s t) {c : String}
    (hc : svc.store.checksum name = .ok (.str c)) (dryRun : Bool)
    (hcan : ¬svc.engine.CanRun inv.knownModel t.nodes) (j : Journal σ) :
    ∃ j', (svc.apply name dryRun).exec j = (.error .unwritten, j') := by
  obtain ⟨n, hn, hpos⟩ := h.workers
  obtain ⟨j', hexec⟩ := Engine.exec_apply_of_not_canRun (s := s) h.traced.clock.succeeds hn
    hpos t.nodes (hr.knows h.models trace) hr.protocols hcan hr.tellsSecret j
  rw [apply_eq (h.resolve hr), hc, Action.exec_bind_ok (Action.exec_ofExcept _ j)]
  exact ⟨j', Action.exec_bind_error hexec _⟩

theorem exec_apply_of_no_checksum (h : svc.WorksOn inv trace) (hr : Resolves inv name s t) {f : Failure}
    (hc : svc.store.checksum name = .error f) (dryRun : Bool) (j : Journal σ) :
    (svc.apply name dryRun).exec j = (.error f, j) := by
  rw [apply_eq (h.resolve hr), hc, Action.exec_bind_error (Action.exec_ofExcept _ j)]

/-- What comes of applying a configuration that can be applied, whatever the sessions do.  A document
with a text whose keys are texts has a checksum; without one, the service fails and nothing has happened.
With a checksum, and where the devices that are told of have names with texts, every port of a device that
is served gets its turn, and its result tells what happened there.  The service then answers with all
results, each of them recorded in the audit log, when the names of the devices can be reported.  When they
cannot, it fails although the sessions are over.  A name without a text always makes it fail. -/
theorem apply_outcome (h : svc.WorksOn inv trace) (hr : Resolves inv name s t) (dryRun : Bool)
    (j : Journal σ) :
    ∃ doc, inv.document name = .ok doc ∧
      ((Value.map doc).hasTextKeys = true → (Value.map doc).hasText = true →
        ∃ c, Checksum.ofDocument (.map doc) = .ok c) ∧
      ((¬∃ c, Checksum.ofDocument (.map doc) = .ok c) →
        ∃ f, Json.IsWriteFault f ∧ (svc.apply name dryRun).exec j = (.error (.fault f), j)) ∧
      ∀ c, Checksum.ofDocument (.map doc) = .ok c →
        (svc.engine.CanRun inv.knownModel t.nodes →
          ∃ x xs lines j', (svc.apply name dryRun).exec j = (x, j') ∧
            List.Forall₂ (Engine.Reports dryRun) (svc.engine.targets t.nodes) xs ∧
            trace j'.world = trace j.world ++ (xs.flatMap Prod.snd).map .session ++ lines.map .audited ∧
            (svc.engine.CanReport t.nodes →
              ∃ r, x = .ok r ∧ svc.Tells s t ⟨dryRun, .str c⟩ (xs.map Prod.fst) lines r) ∧
            (¬svc.engine.CanReport t.nodes → ∃ f, Json.IsWriteFault f ∧ x = .error (.fault f))) ∧
        (¬svc.engine.CanRun inv.knownModel t.nodes →
          ∃ j', (svc.apply name dryRun).exec j = (.error .unwritten, j')) := by
  obtain ⟨doc, hdoc, hstored⟩ := h.checksum_eq hr.schedule
  refine ⟨doc, hdoc, Checksum.ofDocument_ok, ?_, ?_⟩
  · intro hnone
    rcases Checksum.ofDocument_cases doc with hsome | ⟨f, hf, hc⟩
    · exact absurd hsome hnone
    · rw [hc] at hstored
      exact ⟨f, hf, exec_apply_of_no_checksum h hr hstored dryRun j⟩
  · intro c hc
    rw [hc] at hstored
    exact ⟨fun hcan => exec_apply_of_checksum h hr hstored dryRun hcan j,
      fun hcan => exec_apply_of_not_canRun h hr hstored dryRun hcan j⟩

/-- A service on an inventory whose sessions go by a script, and which notes all that it does. -/
def tracing (script : SessionScript) (inv : Inventory) : Service (List RolloutEvent) where
  store := inv.store
  engine :=
    { Engine.still (.tracing script) ⟨[("netconf", ⟨"netconf", [("qbv", [.standard])]⟩)]⟩
        fun _ => .ok ⟨[]⟩ with
      models := fun id => Action.ofExcept (inv.model id)
      audit := fun line => Action.modifyWorld (· ++ [.audited line]) }

theorem tracing_worksOn (script : SessionScript) (inv : Inventory) : (tracing script inv).WorksOn inv id where
  store := rfl
  models _ := rfl
  traced :=
    { sessions := Connector.tracing_traced script
      clock := fun j => ⟨_, j, rfl, rfl⟩
      now := fun j => ⟨_, j, rfl, rfl⟩
      audit := fun _ _ => ⟨_, rfl, rfl⟩ }
  workers := ⟨8, rfl, by decide⟩

/-- A configuration without slots. -/
def slotless : Entries :=
  [(.str "base_time_ns", .int 0), (.str "cycle_time_ns", .int 1000), (.str "entries", .list [])]

/-- A document with a device with one port, a device that no backend serves under a name of any kind, and
a configuration. -/
def documentWith (skipped : Value) : Value :=
  .map [
    (.str "nodes", .map [
      (.str "a", .map [(.str "management", .map [(.str "host", .str "192.0.2.1")]),
        (.str "ports", .list [.str "p1"]),
        (.str "modules", .list [.list [.str "ieee802-dot1q-sched", .str "2021-02-08"],
          .list [.str "ieee802-dot1q-sched-bridge", .str "2021-02-08"]])]),
      (skipped, .map [(.str "management", .map [(.str "host", .str "192.0.2.2"),
        (.str "protocol", .str "snmp")])])]),
    (.str "configurations", .map [(.str "c", .map slotless)])]

/-- The inventory that comes of it. -/
def inventoryWith (skipped : Value) : Inventory where
  nodes := [
    (.str "a", [(.str "management", .map [(.str "host", .str "192.0.2.1")]),
      (.str "ports", .list [.str "p1"]),
      (.str "modules", .list [.list [.str "ieee802-dot1q-sched", .str "2021-02-08"],
        .list [.str "ieee802-dot1q-sched-bridge", .str "2021-02-08"]])]),
    (skipped, [(.str "management", .map [(.str "host", .str "192.0.2.2"),
      (.str "protocol", .str "snmp")])])]
  configurations := [(.str "c", .map slotless)]

theorem ofValue_documentWith (skipped : Value) :
    Inventory.ofValue "inventory.yaml" (documentWith skipped) = .ok (inventoryWith skipped) := rfl

/-- Its devices. -/
def topologyWith (skipped : Value) : Topology where
  nodes := [
    ⟨.str "a", { address := .str "192.0.2.1" }, [⟨"p1"⟩]⟩,
    ⟨skipped, { address := .str "192.0.2.2", protocol := .str "snmp" }, []⟩]

theorem resolves_with {skipped : Value} (h : skipped.unhashable? = none) :
    Resolves (inventoryWith skipped) (.str "c") ⟨"c", 0, 1000, .enabled, [], none⟩
      (topologyWith skipped) where
  schedule := rfl
  topology := rfl
  ids := by
    intro id hid
    rcases List.mem_pair.1 hid with rfl | rfl
    · rfl
    · exact h
  protocols := by
    intro node hnode
    rcases List.mem_pair.1 hnode with rfl | rfl <;> exact ⟨_, rfl⟩
  passwords := by
    intro node hnode
    rcases List.mem_pair.1 hnode with rfl | rfl <;> exact ⟨_, rfl⟩

/-- Every session opens, accepts the edit and closes. -/
def accepting : SessionScript where
  opens _ := .ok ()
  edits _ _ := .ok ()
  closes _ := .ok ()

theorem targets_with (script : SessionScript) (skipped : Value) :
    (tracing script (inventoryWith skipped)).engine.targets (topologyWith skipped).nodes =
      [(⟨.str "a", { address := .str "192.0.2.1" }, [⟨"p1"⟩]⟩, ⟨"p1"⟩)] := rfl

theorem unserved_with (script : SessionScript) (skipped : Value) :
    (tracing script (inventoryWith skipped)).engine.unserved (topologyWith skipped).nodes = [skipped] :=
  rfl

theorem checksum_with (script : SessionScript) (skipped : Value) :
    ∃ c, (tracing script (inventoryWith skipped)).store.checksum (.str "c") = .ok (.str c) := by
  obtain ⟨doc, hdoc, hstored⟩ := (tracing_worksOn script (inventoryWith skipped)).checksum_eq
    (show (inventoryWith skipped).schedule (.str "c") = .ok ⟨"c", 0, 1000, .enabled, [], none⟩ from rfl)
  obtain rfl := Except.ok.inj hdoc
  obtain ⟨c, hc⟩ := Checksum.ofDocument_ok (show (Value.map slotless).hasTextKeys = true from rfl)
    (show (Value.map slotless).hasText = true from rfl)
  exact ⟨c, by rw [hstored, hc]; rfl⟩

theorem canRun_with (script : SessionScript) {skipped : Value} (h : skipped.hasText = true) :
    (tracing script (inventoryWith skipped)).engine.CanRun (inventoryWith skipped).knownModel
      (topologyWith skipped).nodes := by
  intro node hnode
  rcases List.mem_pair.1 hnode with rfl | rfl
  · exact .inl rfl
  · exact .inl h

/-- With texts for names, the service answers, and the result and its line are there. -/
theorem apply_outcome_of_texts :
    let svc := tracing accepting (inventoryWith (.str "b"))
    ∃ c r x lines j', (svc.apply (.str "c") false).exec ⟨[], [], []⟩ = (.ok r, j') ∧
      r.outcome.results = [x] ∧ x.nodeId = .str "a" ∧ x.interface = "p1" ∧
      r.outcome.skipped = [.str "b"] ∧
      List.Forall₂ (Engine.Records ⟨"c", 0, 1000, .enabled, [], none⟩ ⟨false, .str c⟩) [x] lines := by
  intro svc
  obtain ⟨doc, hdoc, hchecksum, -, houtcome⟩ := apply_outcome (tracing_worksOn accepting _)
    (resolves_with (show (Value.str "b").unhashable? = none from rfl)) false ⟨[], [], []⟩
  obtain rfl := Except.ok.inj hdoc
  obtain ⟨c, hc⟩ := hchecksum rfl rfl
  obtain ⟨x, xs, lines, j', hexec, hreports, -, hanswers, -⟩ := (houtcome c hc).1 (canRun_with accepting rfl)
  rw [targets_with] at hreports
  obtain ⟨y, ys, hy, hys, rfl⟩ := List.forall₂_cons_left_iff.1 hreports
  obtain rfl := List.forall₂_nil_left_iff.1 hys
  have htexts : ∀ node ∈ (topologyWith (.str "b")).nodes, ∃ text, node.id = .str text := by
    intro node hnode
    rcases List.mem_pair.1 hnode with rfl | rfl <;> exact ⟨_, rfl⟩
  obtain ⟨r, rfl, htells⟩ := hanswers (Engine.canReport_of_texts htexts)
  exact ⟨c, r, y.1, lines, j', hexec, by rw [htells.outcome]; rfl, hy.nodeId, hy.interface,
    by rw [htells.outcome]; rfl, htells.recorded⟩

/-- A device that is skipped has a number for a name: there is no answer, though all devices that are
served would accept everything. -/
theorem apply_fails_for_numbered_name :
    ∃ inv s t, Inventory.ofValue "inventory.yaml" (documentWith (.int 5)) = .ok inv ∧
      Resolves inv (.str "c") s t ∧
      ¬∃ r j', ((tracing accepting inv).apply (.str "c") false).exec ⟨[], [], []⟩ = (.ok r, j') := by
  refine ⟨inventoryWith (.int 5), _, _, ofValue_documentWith _, resolves_with rfl, ?_⟩
  rintro ⟨r, j', hanswer⟩
  obtain ⟨c, hc⟩ := checksum_with accepting (.int 5)
  obtain ⟨x, xs, lines, j', hexec, -, -, -, hfails⟩ := exec_apply_of_checksum
    (tracing_worksOn accepting _) (resolves_with rfl) hc false (canRun_with accepting rfl) ⟨[], [], []⟩
  have hx : x = .ok r := (Prod.mk.inj (hexec.symm.trans hanswer)).1
  have hreport : ¬(tracing accepting (inventoryWith (.int 5))).engine.CanReport (topologyWith (.int 5)).nodes := by
    intro hreport
    obtain ⟨text, htext⟩ :=
      hreport.unserved (.int 5) (unserved_with accepting (.int 5) ▸ List.mem_cons_self)
    cases htext
  obtain ⟨f, -, hf⟩ := hfails hreport
  cases hx.symm.trans hf

end Service

end GateRollout
