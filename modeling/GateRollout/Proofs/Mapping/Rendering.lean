import GateRollout.Proofs.Value.Written
import GateRollout.Mapping.Backend

/-!
# Rendering without records

What a backend does before a session is opened, with the records left out.  Everything up to the
payload depends on the intent, the device model and the target alone, so rendering is quiet, and a push
is the preparation of a payload followed by one edit of the target.
-/

namespace GateRollout

namespace Plugin

variable {σ : Type}

theorem quiet_map (p : Plugin) (m : Intent) : (p.map m : Action σ Mapped).Quiet (p.mapped m) :=
  (Action.quiet_logAll _).bind_ok (Action.quiet_ofExcept _)

theorem quiet_supportedByDevice (p : Plugin) (model : DeviceModel) :
    (p.supportedByDevice model : Action σ Bool).Quiet (.ok (p.isSupportedBy model)) := by
  rw [supportedByDevice, isSupportedBy]
  cases (p.missing model).isEmpty with
  | true => exact Action.quiet_pure _
  | false => exact (Action.quiet_log _ _).bind_ok (Action.quiet_pure _)

/-- The payload that a push of a mapped structure sends, or what keeps it from being sent. -/
def sent (p : Plugin) (mapped : Mapped) (target : Target) : Except Failure String := do
  p.checkMapped mapped
  let payload ← p.payload mapped target
  let _ ← target.words
  return payload

/-- What is left of a push once its payload is known. -/
def deliver (p : Plugin) (c : Connector σ) (target : Target) (payload : String) : Action σ Unit := do
  c.editOnce target payload
  Action.log .info s!"{p.name}: configured {target.label}"

theorem exec_deliver (p : Plugin) {c : Connector σ} {target : Target} {payload : String}
    {i i' : Journal σ} (h : (c.editOnce target payload).exec i = (.ok (), i')) :
    ∃ i'', (p.deliver c target payload).exec i = (.ok (), i'') ∧ i''.world = i'.world :=
  ⟨_, (Action.exec_bind_ok h _).trans (Action.exec_log _ _ _), rfl⟩

theorem push_leads (p : Plugin) (c : Connector σ) (mapped : Mapped) (target : Target) :
    (p.push c mapped target).Leads (p.sent mapped target) (p.deliver c target) := by
  refine (Action.quiet_ofExcept _).bind_leads fun _ => (Action.quiet_ofExcept _).bind_leads fun payload => ?_
  by_cases htext : target.deviceName.hasText = true
  · rw [Target.words_of_hasText htext]
    exact (Action.quiet_log _ _).bind_leads fun _ => Action.leads_self payload (p.deliver c target)
  · rw [Target.words_of_not_hasText htext]
    exact fun j => ⟨j, rfl, rfl⟩

end Plugin

namespace Backend

variable {σ α : Type}

/-- The plugin that serves an intent on a device, or why there is none. -/
def choice (b : Backend) (m : Intent) (model : DeviceModel) : Except Failure Plugin :=
  if m.feature.isNull then
    .error (.ofKind .unsupportedFeature s!"{m.typeName} does not name a feature")
  else b.selected m.feature model

/-- The payload of an intent for a target, or what keeps it from being written. -/
def rendered (b : Backend) (m : Intent) (model : DeviceModel) (target : Target) :
    Except Failure String := do
  let p ← b.choice m model
  let mapped ← (p.mapped m).mapError (inContext p target "mapping failed")
  p.payload mapped target

/-- The plugin and the payload of a push, or what keeps it from being sent. -/
def prepared (b : Backend) (m : Intent) (model : DeviceModel) (target : Target) :
    Except Failure (Plugin × String) := do
  let p ← b.choice m model
  let mapped ← (p.mapped m).mapError (inContext p target "mapping failed")
  let payload ← (p.sent mapped target).mapError (inContext p target "push failed")
  return (p, payload)

theorem quiet_select (b : Backend) (feature : Value) (model : DeviceModel) :
    (b.select feature model : Action σ Plugin).Quiet (b.selected feature model) := by
  cases hp : b.pluginsFor feature with
  | error e =>
    have hs : b.selected feature model = .error e := by rw [selected, hp]; rfl
    rw [select, hp, hs]
    exact (Action.quiet_ofExcept _).bind_error
  | ok plugins =>
    rw [select, hp]
    refine (Action.quiet_ofExcept _).bind_ok ((Action.quiet_forM (fun p => ?_) plugins).bind_ok ?_)
    · exact (p.quiet_supportedByDevice model).bind_ok (Action.quiet_pure _)
    · cases b.selected feature model with
      | error e => exact (Action.quiet_ofExcept _).bind_error
      | ok chosen =>
        refine (Action.quiet_ofExcept _).bind_ok ?_
        dsimp only
        split
        · exact (Action.quiet_log _ _).bind_ok (Action.quiet_pure _)
        · exact Action.quiet_pure _

theorem quiet_selectFor (b : Backend) (m : Intent) (model : DeviceModel) :
    (b.selectFor m model : Action σ Plugin).Quiet (b.choice m model) := by
  rw [selectFor, choice]
  cases m.feature.isNull with
  | true => exact Action.quiet_throw _
  | false => exact b.quiet_select _ _

theorem exec_within (p : Plugin) (target : Target) (what : String) (x : Action σ α) (j : Journal σ) :
    (within p target what x).exec j =
      ((x.exec j).1.mapError (inContext p target what), (x.exec j).2) := by
  rw [within, Action.exec_bind_ok (Action.exec_attempt x j)]
  rcases x.exec j with ⟨_ | _, j'⟩ <;> rfl

theorem quiet_within {x : Action σ α} {r : Except Failure α} (h : x.Quiet r) (p : Plugin)
    (target : Target) (what : String) :
    (within p target what x).Quiet (r.mapError (inContext p target what)) := by
  intro j
  rw [exec_within, (h j).1]
  exact ⟨rfl, (h j).2⟩

theorem quiet_render (b : Backend) (m : Intent) (model : DeviceModel) (target : Target) :
    (b.render m model target : Action σ String).Quiet (b.rendered m model target) :=
  (b.quiet_selectFor m model).bind fun p =>
    (quiet_within (p.quiet_map m) p target _).bind fun _ => Action.quiet_ofExcept _

/-- Errors are told apart by the plugin before and after the quiet beginning alike. -/
theorem within_leads {β : Type} {x : Action σ α} {r : Except Failure β} {f : β → Action σ α}
    (h : x.Leads r f) (p : Plugin) (target : Target) (what : String) :
    (within p target what x).Leads (r.mapError (inContext p target what))
      fun a => within p target what (f a) := by
  intro j
  obtain ⟨i, hi, hexec⟩ := h j
  refine ⟨i, hi, ?_⟩
  rw [exec_within, hexec]
  cases r with
  | ok a => exact (exec_within ..).symm
  | error e => rfl

/-- A push prepares its payload, and then delivers it in one session. -/
theorem push_leads (b : Backend) (c : Connector σ) (m : Intent) (model : DeviceModel) (target : Target) :
    (b.push c m model target).Leads (b.prepared m model target) fun (p, payload) => do
      within p target "push failed" (p.deliver c target payload)
      return p :=
  (b.quiet_selectFor m model).bind_leads fun p =>
    (quiet_within (p.quiet_map m) p target _).bind_leads fun mapped =>
      ((within_leads (p.push_leads c mapped target) p target _).bind _).map

end Backend

end GateRollout
