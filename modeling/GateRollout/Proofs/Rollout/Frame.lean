import GateRollout.Proofs.Rollout.Job

/-!
# What a rollout leaves alone

A part of the state that no session, no clock, no store and no question for a cancellation changes is changed
by nothing in a rollout but the recording of its results.
-/

namespace GateRollout

variable {σ τ α β : Type}

namespace Action

/-- An action leaves what a view shows of the state as it was, whether it succeeds or fails. -/
def Leaves (view : σ → τ) (x : Action σ α) : Prop := ∀ j, view (x.exec j).2.world = view j.world

variable {view : σ → τ}

theorem Quiet.leaves {x : Action σ α} {r : Except Failure α} (h : x.Quiet r) : x.Leaves view := fun j =>
  congrArg view (h j).2

theorem Leaves.of_eq {x : Action σ α} (h : x.Leaves view) {j j' : Journal σ} {r : Except Failure α}
    (hexec : x.exec j = (r, j')) : view j'.world = view j.world := by
  have hj := h j
  rwa [hexec] at hj

theorem Leaves.attempt {x : Action σ α} (h : x.Leaves view) : (attempt x).Leaves view := h

theorem Leaves.bind {x : Action σ α} {f : α → Action σ β} (hx : x.Leaves view) (hf : ∀ a, (f a).Leaves view) :
    (x >>= f).Leaves view := by
  intro j
  rw [exec_bind]
  rcases h : x.exec j with ⟨_ | a, j'⟩
  · exact hx.of_eq h
  · exact (hf a j').trans (hx.of_eq h)

/-- What follows an action matters only from the results that the action can have. -/
theorem Leaves.bind_of_eq {x : Action σ α} {f : α → Action σ β} (hx : x.Leaves view)
    (hf : ∀ {j a j'}, x.exec j = (.ok a, j') → (f a).Leaves view) : (x >>= f).Leaves view := by
  intro j
  rw [exec_bind]
  rcases h : x.exec j with ⟨_ | a, j'⟩
  · exact hx.of_eq h
  · exact (hf h j').trans (hx.of_eq h)

theorem leaves_ofExcept (r : Except Failure α) : (ofExcept r : Action σ α).Leaves view := fun _ => rfl

theorem leaves_pure (a : α) : (pure a : Action σ α).Leaves view := fun _ => rfl

theorem leaves_throw (f : Failure) : (throw f : Action σ α).Leaves view := fun _ => rfl

theorem leaves_log (level : Level) (message : String) : (log level message : Action σ Unit).Leaves view :=
  fun _ => rfl

theorem Leads.leaves {x : Action σ β} {r : Except Failure α} {f : α → Action σ β} (h : x.Leads r f)
    (hf : ∀ a, (f a).Leaves view) : x.Leaves view := by
  intro j
  obtain ⟨i, hi, hexec⟩ := h j
  rw [hexec, ← hi]
  cases r with
  | ok a => exact hf a i
  | error e => rfl

end Action

open GateRollout.Action

variable {view : σ → τ}

/-- A connector whose sessions leave a view of the state as it was. -/
structure Connector.Leaves (c : Connector σ) (view : σ → τ) : Prop where
  connect : ∀ target, (c.connect target).Leaves view
  session : ∀ target j s j', (c.connect target).exec j = (.ok s, j') →
    (∀ payload, (s.edit payload).Leaves view) ∧ s.close.Leaves view

theorem Connector.Leaves.editOnce {c : Connector σ} (h : c.Leaves view) (target : Target) (payload : String) :
    (c.editOnce target payload).Leaves view := by
  refine (h.connect target).bind_of_eq fun hexec => ?_
  obtain ⟨hedit, hclose⟩ := h.session target _ _ _ hexec
  exact (hedit payload).attempt.bind fun _ => hclose.bind fun _ => leaves_ofExcept _

theorem Backend.leaves_push {c : Connector σ} (h : c.Leaves view) (b : Backend) (m : Intent)
    (model : DeviceModel)
    (target : Target) : (b.push c m model target).Leaves view := by
  refine (b.push_leads c m model target).leaves fun (p, payload) => ?_
  refine Leaves.bind (fun j => ?_) fun _ => leaves_pure _
  rw [exec_within]
  exact ((h.editOnce target payload).bind fun _ => leaves_log _ _) j

namespace Engine

/-- An engine whose store, sessions and clock leave a view of the state as it was. -/
structure Leaves (e : Engine σ) (view : σ → τ) : Prop where
  models : ∀ id, (e.models id).Leaves view
  connector : e.connector.Leaves view
  clock : e.clock.Leaves view

variable {e : Engine σ}

theorem Leaves.tryJob (h : e.Leaves view) (intent : Intent) (dryRun : Bool) (model : DeviceModel)
    (job : Job) :
    (e.tryJob intent dryRun model job).Leaves view := by
  cases dryRun with
  | true => exact (quiet_renderJob intent model job).leaves
  | false =>
    refine (job.backend.leaves_push h.connector intent model job.target).attempt.bind fun r => ?_
    cases r <;> exact leaves_pure _

theorem Leaves.report (h : e.Leaves view) (dryRun : Bool) (job : Job) (start began : Number)
    (x : Option String × Except Failure (Option String)) :
    (e.report dryRun job start began x).Leaves view := by
  have hstop : ∀ f : Number → TargetResult, (do return f (← e.clock)).Leaves view := fun f =>
    h.clock.bind fun _ => leaves_pure _
  refine h.clock.bind fun stop => Leaves.bind (fun _ => rfl) fun _ => ?_
  rcases x with ⟨plugin, f | payload⟩
  · exact (quiet_logFailure job f).leaves.bind fun _ => hstop _
  · exact hstop _

theorem Leaves.runJob (h : e.Leaves view) (intent : Intent) (dryRun : Bool) (job : Job) :
    (e.runJob intent dryRun job).Leaves view := by
  rw [Engine.runJob]
  cases job.model with
  | error err => exact leaves_pure _
  | ok model =>
    change (e.runKnown intent dryRun model job).Leaves view
    rw [runKnown_eq]
    exact h.clock.bind fun start => (leaves_ofExcept _).bind fun _ => h.clock.bind fun began =>
      (h.tryJob intent dryRun model job).bind fun x => h.report dryRun job start began x

theorem Leaves.modelOf (h : e.Leaves view) (node : Node) : (e.modelOf node).Leaves view := by
  refine (h.models node.id).attempt.bind fun r => ?_
  rcases r with (err | f) | model
  · dsimp only
    split
    · exact (leaves_ofExcept _).bind fun _ => (leaves_log _ _).bind fun _ => leaves_pure _
    · exact leaves_throw _
  · exact leaves_throw _
  · exact leaves_pure _

theorem Leaves.jobsOf (h : e.Leaves view) (node : Node) : (e.jobsOf node).Leaves view := by
  refine (leaves_ofExcept _).bind fun backend => ?_
  cases backend with
  | none =>
    exact (leaves_ofExcept _).bind fun _ => (leaves_ofExcept _).bind fun _ => (leaves_log _ _).bind fun _ =>
      leaves_pure _
  | some backend =>
    exact (h.modelOf node).bind fun _ => (leaves_ofExcept _).bind fun _ => leaves_pure _

theorem Leaves.buildJobs (h : e.Leaves view) (nodes : List Node) : (e.buildJobs nodes).Leaves view := by
  induction nodes with
  | nil => exact leaves_pure _
  | cons node nodes ih =>
    refine (h.jobsOf node).bind fun own => ?_
    cases own with
    | none => exact ih.bind fun _ => leaves_pure _
    | some own => exact ih.bind fun _ => leaves_pure _

end Engine

end GateRollout
