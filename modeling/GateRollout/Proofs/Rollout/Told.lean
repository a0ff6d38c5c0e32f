import GateRollout.Proofs.Mapping.Variants
import GateRollout.Proofs.Rollout.Job

/-!
# Results that say enough

Whatever becomes of a target is told in its result: a success names its plugin, and a failure has an
error that is not empty.  The error of a session may well be empty; then the kind of the fault stands in
for its text, as every kind has a name, and an error of the rollout has the plugin in front.  What an
action can end in is followed through its parts, results and failures at once.
-/

namespace GateRollout

variable {σ α β : Type}

/-- A result with `P`, or a failure with `F`. -/
def EndsIn (P : α → Prop) (F : Failure → Prop) : Except Failure α → Prop
  | .ok a => P a
  | .error f => F f

section EndsIn

variable {P : α → Prop} {Q : β → Prop} {F G : Failure → Prop}

theorem EndsIn.bind {r : Except Failure α} {s : α → Except Failure β} (h : EndsIn P F r)
    (hs : ∀ a, P a → EndsIn Q F (s a)) : EndsIn Q F (r >>= s) := by
  cases r with
  | ok a => exact hs a h
  | error f => exact h

theorem EndsIn.mapError {r : Except Failure α} {g : Failure → Failure} (h : EndsIn P F r)
    (hg : ∀ f, F f → G (g f)) : EndsIn P G (r.mapError g) := by
  cases r with
  | ok a => exact h
  | error f => exact hg f h

end EndsIn

namespace Action

/-- From every journal an action ends in a result with `P` or in a failure with `F`. -/
def Ends (x : Action σ α) (P : α → Prop) (F : Failure → Prop) : Prop := ∀ j, EndsIn P F (x.exec j).1

variable {P : α → Prop} {Q : β → Prop} {F G : Failure → Prop}

theorem Ends.of_eq_ok {x : Action σ α} (h : x.Ends P F) {j j' : Journal σ} {a : α}
    (hexec : x.exec j = (.ok a, j')) : P a := by
  have hj := h j
  rwa [hexec] at hj

theorem ends_any (x : Action σ α) : x.Ends (fun _ => True) fun _ => True := fun j => by
  cases (x.exec j).1 <;> trivial

/-- An action that cannot fail has a result. -/
theorem Ends.exec_ok {x : Action σ α} (h : x.Ends P fun _ => False) (j : Journal σ) :
    ∃ a j', x.exec j = (.ok a, j') ∧ P a := by
  have hj := h j
  rcases hx : x.exec j with ⟨f | a, j'⟩
  all_goals rw [hx] at hj
  · exact absurd hj id
  · exact ⟨a, j', rfl, hj⟩

theorem Succeeds.ends {x : Action σ α} (h : x.Succeeds) : x.Ends (fun _ => True) F := fun j => by
  obtain ⟨a, j', hj⟩ := h j
  rw [hj]
  trivial

theorem ends_pure {a : α} (h : P a) : (pure a : Action σ α).Ends P F := fun _ => h

theorem ends_throw {f : Failure} (h : F f) : (throw f : Action σ α).Ends P F := fun _ => h

theorem ends_ofExcept {r : Except Failure α} (h : EndsIn P F r) : (ofExcept r : Action σ α).Ends P F :=
  fun _ => h

theorem ends_log (l : Level) (m : String) : (log l m : Action σ Unit).Ends (fun _ => True) F :=
  fun _ => trivial

theorem Quiet.ends {x : Action σ α} {r : Except Failure α} (h : x.Quiet r) (hr : EndsIn P F r) :
    x.Ends P F := fun j => by
  rw [(h j).1]
  exact hr

theorem Ends.mono {P' : α → Prop} {x : Action σ α} (h : x.Ends P F) (hP : ∀ a, P a → P' a)
    (hF : ∀ f, F f → G f) : x.Ends P' G := fun j => by
  have hj := h j
  cases hx : (x.exec j).1 with
  | ok a =>
    rw [hx] at hj
    exact hP a hj
  | error f =>
    rw [hx] at hj
    exact hF f hj

/-- An attempt does not fail: its result is how the action ended. -/
theorem Ends.attempt {x : Action σ α} (h : x.Ends P F) : (attempt x).Ends (EndsIn P F) G := h

theorem Ends.bind {x : Action σ α} {f : α → Action σ β} (hx : x.Ends P F)
    (hf : ∀ a, P a → (f a).Ends Q F) : (x >>= f).Ends Q F := by
  intro j
  have hj := hx j
  rw [exec_bind]
  rcases h : x.exec j with ⟨_ | a, j'⟩
  all_goals rw [h] at hj
  · exact hj
  · exact hf a hj j'

theorem Leads.ends {x : Action σ β} {r : Except Failure α} {f : α → Action σ β} (h : x.Leads r f)
    (hr : EndsIn P F r) (hf : ∀ a, P a → (f a).Ends Q F) : x.Ends Q F := by
  intro j
  obtain ⟨i, -, hexec⟩ := h j
  rw [hexec]
  cases r with
  | ok a => exact hf a hr i
  | error e => exact hr

end Action

/-! ## Failures -/

/-- There is something to say of a failure: an error has a text, and a fault at least a kind with a name. -/
def Failure.Speaks : Failure → Prop
  | .error e => e.message ≠ ""
  | .fault _ => True

theorem ErrorKind.name_ne (k : ErrorKind) : k.name ≠ "" := by
  cases k <;> decide

theorem FaultKind.name_ne (k : FaultKind) : k.name ≠ "" := by
  cases k with
  | system n | other n | special n _ => exact n.nonempty
  | _ => decide

namespace Backend

variable {b : Backend}

/-- With the plugin in front, even an error without a text has one. -/
theorem speaks_inContext (p : Plugin) (target : Target) (what : String) (f : Failure) :
    (inContext p target what f).Speaks := by
  cases f with
  | error e =>
    by_cases htarget : target.deviceName.hasText = true
    · rw [inContext_error htarget]
      simp [contextual, Failure.Speaks, toString]
    · rw [inContext, Target.words_of_not_hasText htarget]
      trivial
  | fault f => trivial

theorem ends_within (x : Action σ α) (p : Plugin) (target : Target) (what : String) :
    (within p target what x).Ends (fun _ => True) Failure.Speaks := by
  intro j
  rw [exec_within]
  exact (Action.ends_any x j).mapError fun f _ => speaks_inContext p target what f

/-! ## Selection and mapping -/

theorem HoldsVariants.selected_endsIn (h : b.HoldsVariants) (feature : String) (model : DeviceModel) :
    EndsIn Plugin.IsVariant Failure.Speaks (b.selected (.str feature) model) := by
  cases hr : ranked model (b.pluginsOf feature) with
  | nil =>
    rw [selected_of_ranked_nil hr, unsupported, if_pos Value.hasText_str]
    simp [EndsIn, Failure.ofKind, Failure.Speaks, toString]
  | cons p rest =>
    obtain ⟨p', hp', hs⟩ | ⟨err, hs⟩ := b.selected_cases feature model
    · obtain ⟨group, hgroup, hp'⟩ := mem_of_mem_pluginsOf hp'
      rw [hs]
      exact h group hgroup p' hp'
    · rw [selected_of_ranked_cons hr] at hs
      cases hs

theorem mapped_endsIn {p : Plugin} (hp : p.IsVariant) (s : Schedule) (target : Target) :
    EndsIn (fun m => ∃ t : GateTable, t.isWritten = true ∧ m = .table t) Failure.Speaks
      ((p.mapped (.schedule s)).mapError (inContext p target "mapping failed")) := by
  rcases hp.mapped_cases s with ⟨t, hwritten, ht⟩ | ⟨err, herr⟩ | ⟨-, herr⟩
  · rw [ht]
    exact ⟨t, hwritten, rfl⟩
  · rw [herr]
    exact speaks_inContext p target "mapping failed" (.error err)
  · rw [herr]
    exact speaks_inContext p target "mapping failed" .unwritten

theorem HoldsVariants.rendered_endsIn (h : b.HoldsVariants) (s : Schedule) (model : DeviceModel)
    (target : Target) : EndsIn (fun _ => True) Failure.Speaks (b.rendered (.schedule s) model target) := by
  refine EndsIn.bind (P := Plugin.IsVariant) (h.selected_endsIn _ model) fun p hp => ?_
  refine (mapped_endsIn hp s target).bind fun m ⟨t, hwritten, ht⟩ => ?_
  obtain ⟨text, htext⟩ := hp.payload_ok hwritten
  rw [ht, htext target]
  trivial

theorem HoldsVariants.prepared_endsIn (h : b.HoldsVariants) (s : Schedule) (model : DeviceModel)
    (target : Target) :
    EndsIn (fun x => x.1.IsVariant) Failure.Speaks (b.prepared (.schedule s) model target) := by
  refine EndsIn.bind (P := Plugin.IsVariant) (h.selected_endsIn _ model) fun p hp => ?_
  refine (mapped_endsIn hp s target).bind fun m _ => ?_
  refine EndsIn.bind (P := fun _ => True) ?_ fun _ _ => hp
  have hany : EndsIn (fun _ => True) (fun _ => True) (p.sent m target) := by
    cases p.sent m target <;> trivial
  exact hany.mapError fun f _ => speaks_inContext p target _ f

theorem HoldsVariants.push_ends (h : b.HoldsVariants) (c : Connector σ) (s : Schedule)
    (model : DeviceModel) (target : Target) :
    (b.push c (.schedule s) model target).Ends Plugin.IsVariant Failure.Speaks := by
  refine (b.push_leads c (.schedule s) model target).ends (h.prepared_endsIn s model target) ?_
  intro (p, payload) hp
  exact (ends_within _ p target _).bind fun _ _ => Action.ends_pure hp

end Backend

/-! ## Results -/

namespace TargetResult

/-- A result as data has an error and the kind of it. -/
def Carries (r : TargetResult) (error kind : String) : Prop :=
  ∃ entries, r.toValue = .map entries ∧ Entries.valueAt? entries "error" = some (.str error) ∧
    Entries.valueAt? entries "error_kind" = some (.str kind)

/-- What is told of one target. -/
structure IsTold (dryRun : Bool) (r : TargetResult) : Prop where
  success : r.status = .success →
    (∃ name, r.plugin = some name ∧ name ≠ "") ∧ r.error = none ∧ r.errorKind = none
  failed : r.status = .failed → ∃ error kind, r.error = some error ∧ error ≠ "" ∧
    r.errorKind = some kind ∧ kind ≠ "" ∧ r.Carries error kind
  cancelled : r.status = .cancelled → r.plugin = none ∧ ∃ error, r.error = some error ∧ error ≠ ""
  payload : r.payload.isSome = true ↔ dryRun = true ∧ r.status = .success

/-- A result with an error that is not empty has it as data too. -/
theorem carries_of_error {r : TargetResult} {error kind : String} (herror : r.error = some error)
    (hne : error ≠ "") (hkind : r.errorKind = some kind) : r.Carries error kind := by
  have hstated : r.statedError? = some error := by
    simp [statedError?, herror, hne]
  refine ⟨_, rfl, ?_, ?_⟩
  · simp [hstated, Entries.valueAt?, Value.isText, Value.asText?]
  · simp [hstated, hkind, optionalText, Entries.valueAt?, Value.isText, Value.asText?]

/-- A failure without a payload is told where its error and the kind of it are not empty. -/
theorem isTold_of_failed {r : TargetResult} {error kind : String} (hr : r.status = .failed)
    (herror : r.error = some error) (hne : error ≠ "") (hkind : r.errorKind = some kind)
    (hkne : kind ≠ "") (hpayload : r.payload = none) (dryRun : Bool) : r.IsTold dryRun where
  success h := nomatch hr.symm.trans h
  failed _ := ⟨error, kind, herror, hne, hkind, hkne, carries_of_error herror hne hkind⟩
  cancelled h := nomatch hr.symm.trans h
  payload := by simp [hr, hpayload]

end TargetResult

namespace Engine

/-- What comes of trying a job says enough: the name of the plugin and, where it is only written, the
payload, or a failure that speaks. -/
def TellsEnding (dryRun : Bool) (x : Option String × Except Failure (Option String)) : Prop :=
  EndsIn (fun payload => (∃ name, x.1 = some name ∧ name ≠ "") ∧ payload.isSome = dryRun)
    Failure.Speaks x.2

theorem isTold_resultOf {dryRun : Bool} {plugin : Option String} {ending : Except Failure (Option String)}
    (h : TellsEnding dryRun (plugin, ending)) (job : Job) (duration : Number) :
    (resultOf job duration plugin ending).IsTold dryRun := by
  rcases ending with (err | f) | payload
  · exact TargetResult.isTold_of_failed rfl rfl h rfl err.kind.name_ne rfl dryRun
  · refine TargetResult.isTold_of_failed rfl rfl ?_ rfl f.kind.name_ne rfl dryRun
    split
    · exact f.kind.name_ne
    · simp_all
  · obtain ⟨hplugin, hpayload⟩ := h
    exact ⟨fun _ => ⟨hplugin, rfl, rfl⟩, nofun, nofun, by simp [resultOf, hpayload]⟩

theorem isTold_modelFailure (dryRun : Bool) (job : Job) (err : RolloutError) :
    (modelFailure job err).IsTold dryRun := by
  refine TargetResult.isTold_of_failed rfl rfl ?_ rfl err.kind.name_ne rfl dryRun
  simp [toString]

theorem isTold_cancelledResult (dryRun : Bool) (job : Job) :
    (Executor.cancelledResult job).IsTold dryRun :=
  ⟨nofun, nofun, fun _ => ⟨rfl, _, rfl, by decide⟩, by simp [Executor.cancelledResult]⟩

/-! ## Jobs -/

theorem ends_words {F : Failure → Prop} {target : Target}
    (h : ¬target.deviceName.hasText = true → F .unwritten) :
    (Action.ofExcept target.words : Action σ String).Ends (fun _ => True) F := by
  refine Action.ends_ofExcept ?_
  by_cases hname : target.deviceName.hasText = true
  · rw [Target.words_of_hasText hname]
    trivial
  · rw [Target.words_of_not_hasText hname]
    exact h hname

theorem tellsEnding_dryEnding {job : Job} (h : job.backend.HoldsVariants) (s : Schedule)
    (model : DeviceModel) : TellsEnding true (dryEnding (.schedule s) model job) := by
  have hselected := h.selected_endsIn Schedule.feature model
  have hrendered := h.rendered_endsIn s model job.target
  cases hs : job.backend.selected (.str Schedule.feature) model with
  | error f =>
    rw [dryEnding_of_error hs]
    rw [hs] at hselected
    exact hselected
  | ok p =>
    rw [dryEnding_of_ok hs, TellsEnding]
    rw [hs] at hselected
    cases hr : job.backend.rendered (.schedule s) model job.target with
    | error f =>
      rw [hr] at hrendered
      exact hrendered
    | ok text => exact ⟨⟨_, rfl, by simpa using hselected.name_ne⟩, rfl⟩

theorem pushJob_ends {e : Engine σ} {job : Job}
    (h : job.backend.HoldsVariants) (s : Schedule) (model : DeviceModel) :
    (e.pushJob (.schedule s) model job).Ends (TellsEnding false) fun _ => False := by
  refine (h.push_ends e.connector s model job.target).attempt.bind fun r hr => ?_
  cases r with
  | error f => exact Action.ends_pure hr
  | ok p =>
    have hp : p.IsVariant := hr
    exact Action.ends_pure ⟨⟨_, rfl, by simpa using hp.name_ne⟩, rfl⟩

theorem tryJob_ends {e : Engine σ} {job : Job}
    (h : job.backend.HoldsVariants) (s : Schedule) (dryRun : Bool) (model : DeviceModel) :
    (e.tryJob (.schedule s) dryRun model job).Ends (TellsEnding dryRun) fun _ => False := by
  cases dryRun with
  | true => exact (quiet_renderJob (.schedule s) model job).ends (tellsEnding_dryEnding h s model)
  | false => exact pushJob_ends h s model

theorem report_ends {e : Engine σ} {F : Failure → Prop} (hclock : e.clock.Ends (fun _ => True) F)
    {dryRun : Bool} {x : Option String × Except Failure (Option String)} (h : TellsEnding dryRun x)
    (job : Job) (start began : Number) :
    (e.report dryRun job start began x).Ends (fun r => r.IsTold dryRun ∧ r.nodeId = job.nodeId) F := by
  obtain ⟨plugin, ending⟩ := x
  have hstop : (do
      let stop ← e.clock
      return resultOf job ((stop.sub start).mul (.int 1000)) plugin ending).Ends
        (fun r => r.IsTold dryRun ∧ r.nodeId = job.nodeId) F :=
    hclock.bind fun stop _ =>
      Action.ends_pure ⟨isTold_resultOf h job _, (resultOf_names job _ plugin ending).1⟩
  refine hclock.bind fun stop _ => Action.Ends.bind (P := fun _ => True) (fun _ => trivial) fun _ _ => ?_
  cases ending with
  | ok payload => exact hstop
  | error f =>
    exact ((quiet_logFailure job f).ends (P := fun _ => True) trivial).bind fun _ _ => hstop

/-- A job fails only where the clock does or its device has no name, and its result says enough. -/
theorem runJob_ends {e : Engine σ} {F : Failure → Prop} (hclock : e.clock.Ends (fun _ => True) F)
    {job : Job} (hname : ¬job.target.deviceName.hasText = true → F .unwritten)
    (h : job.backend.HoldsVariants) (s : Schedule) (dryRun : Bool) :
    (e.runJob (.schedule s) dryRun job).Ends (fun r => r.IsTold dryRun ∧ r.nodeId = job.nodeId) F := by
  rw [runJob]
  cases job.model with
  | error err => exact Action.ends_pure ⟨isTold_modelFailure dryRun job err, rfl⟩
  | ok model =>
    dsimp only
    rw [runKnown_eq]
    have htry := (tryJob_ends (e := e) h s dryRun model).mono (G := F) (fun _ => id) fun _ => False.elim
    exact hclock.bind fun start _ => (ends_words hname).bind fun _ _ => hclock.bind fun began _ =>
      htry.bind fun x hx => report_ends hclock hx job start began

end Engine

end GateRollout
