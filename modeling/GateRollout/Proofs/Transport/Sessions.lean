import GateRollout.Proofs.Journal
import GateRollout.Transport.Connector

/-!
# Scripted sessions

How sessions end is up to the devices.  A script says it for every target, independently of what was
done before and of what goes on at other targets; a connector that goes by a script is all that is
assumed of the transport.  Where sessions are counted, the connector is obliging instead: no session
fails, and a log in the state tells what happened in them.
-/

namespace GateRollout

/-- How the sessions to every target end: whether they open, what comes of an edit, and whether they
close. -/
structure SessionScript where
  opens : Target → Except Failure Unit
  edits : Target → String → Except Failure Unit
  closes : Target → Except Failure Unit

/-- What comes of editing a target once.  A failure to close takes the place of what went before. -/
def SessionScript.edited (script : SessionScript) (target : Target) (payload : String) :
    Except Failure Unit := do
  script.opens target
  script.closes target
  script.edits target payload

/-- What happens in a session. -/
inductive SessionEvent where
  | opened (target : Target)
  | edited (target : Target) (payload : String)
  | closed (target : Target)

/-- All that happens in a session in which a target is edited once. -/
def SessionEvent.session (target : Target) (payload : String) : List SessionEvent :=
  [.opened target, .edited target payload, .closed target]

namespace Connector

variable {σ : Type}

/-! ## Scripts -/

/-- The connector's sessions go by a script, whatever the state is. -/
structure Follows (c : Connector σ) (script : SessionScript) : Prop where
  refuses : ∀ target f, script.opens target = .error f → ∀ j, ((c.connect target).exec j).1 = .error f
  opens : ∀ target, script.opens target = .ok () → ∀ j, ∃ s j', (c.connect target).exec j = (.ok s, j') ∧
    (∀ payload i, ((s.edit payload).exec i).1 = script.edits target payload) ∧
    ∀ i, (s.close.exec i).1 = script.closes target

/-- What came of the work is what comes of it with closing, unless closing fails. -/
theorem exec_closingAfter {α : Type} (close : Action σ Unit) (x : Action σ α) (j : Journal σ) :
    (closingAfter close x).exec j =
      ((close.exec (x.exec j).2).1 >>= fun _ => (x.exec j).1, (close.exec (x.exec j).2).2) := by
  rw [closingAfter, Action.exec_bind_ok (Action.exec_attempt x j), Action.exec_bind]
  rcases close.exec (x.exec j).2 with ⟨_ | _, j'⟩ <;> rfl

/-- What comes of editing a target once is what the script says. -/
theorem Follows.editOnce {c : Connector σ} {script : SessionScript} (h : c.Follows script)
    (target : Target) (payload : String) (j : Journal σ) :
    ((c.editOnce target payload).exec j).1 = script.edited target payload := by
  rw [Connector.editOnce, SessionScript.edited]
  cases ho : script.opens target with
  | error f =>
    have hc : (c.connect target).exec j = (.error f, ((c.connect target).exec j).2) :=
      Prod.ext (h.refuses target f ho j) rfl
    rw [Action.exec_bind_error hc]
    rfl
  | ok =>
    obtain ⟨s, j', hc, hedit, hclose⟩ := h.opens target ho j
    rw [Action.exec_bind_ok hc, exec_closingAfter, hclose, hedit]
    rfl

/-- The connector that does nothing but go by a script. -/
def scripted (script : SessionScript) : Connector σ where
  connect target := do
    Action.ofExcept (script.opens target)
    return {
      edit := fun payload => Action.ofExcept (script.edits target payload)
      close := Action.ofExcept (script.closes target) }

theorem scripted_follows (script : SessionScript) :
    (scripted script : Connector σ).Follows script where
  refuses target f hf j := by
    change ((Action.ofExcept (script.opens target) >>= fun _ => _).exec j).1 = _
    rw [hf, Action.exec_bind_error (Action.exec_ofExcept _ j)]
  opens target ho j := by
    refine ⟨⟨fun payload => Action.ofExcept (script.edits target payload),
      Action.ofExcept (script.closes target)⟩, j, ?_, fun _ _ => rfl, fun _ => rfl⟩
    change (Action.ofExcept (script.opens target) >>= fun _ => _).exec j = _
    rw [ho, Action.exec_bind_ok (Action.exec_ofExcept _ j), Action.exec_pure]

/-! ## Obliging connectors -/

/-- The connector's sessions all open, accept every edit and close, and the log in the state tells what
happens in them. -/
structure Obliges (c : Connector σ) (log : σ → List SessionEvent) : Prop where
  opens : ∀ target j, ∃ s j', (c.connect target).exec j = (.ok s, j') ∧
    log j'.world = log j.world ++ [.opened target] ∧
    (∀ payload i, ∃ i', (s.edit payload).exec i = (.ok (), i') ∧
      log i'.world = log i.world ++ [.edited target payload]) ∧
    ∀ i, ∃ i', s.close.exec i = (.ok (), i') ∧ log i'.world = log i.world ++ [.closed target]

theorem Obliges.editOnce {c : Connector σ} {log : σ → List SessionEvent} (h : c.Obliges log)
    (target : Target) (payload : String) (j : Journal σ) :
    ∃ j', (c.editOnce target payload).exec j = (.ok (), j') ∧
      log j'.world = log j.world ++ SessionEvent.session target payload := by
  obtain ⟨s, j₁, hopen, hw₁, hedit, hclose⟩ := h.opens target j
  obtain ⟨j₂, hedited, hw₂⟩ := hedit payload j₁
  obtain ⟨j₃, hclosed, hw₃⟩ := hclose j₂
  have hattempt : (Action.attempt (s.edit payload)).exec j₁ = (.ok (.ok ()), j₂) := by
    rw [Action.exec_attempt, hedited]
  refine ⟨j₃, ?_, ?_⟩
  · rw [Connector.editOnce, Action.exec_bind_ok hopen, closingAfter, Action.exec_bind_ok hattempt,
      Action.exec_bind_ok hclosed, Action.exec_ofExcept]
  · rw [hw₃, hw₂, hw₁]
    simp [SessionEvent.session]

/-- The connector that does nothing but log its sessions. -/
def logging : Connector (List SessionEvent) where
  connect target := do
    Action.modifyWorld (· ++ [.opened target])
    return {
      edit := fun payload => Action.modifyWorld (· ++ [.edited target payload])
      close := Action.modifyWorld (· ++ [.closed target]) }

theorem logging_obliges : logging.Obliges id where
  opens _ _ := ⟨_, _, rfl, rfl, fun _ _ => ⟨_, rfl, rfl⟩, fun _ => ⟨_, rfl, rfl⟩⟩

end Connector

end GateRollout
