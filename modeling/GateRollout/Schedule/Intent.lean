import GateRollout.Schedule.Basic

/-!
# Intents

What a rollout is asked to apply.  Only a schedule is understood by the plugins of this library; any
other message is carried along so that it can be refused by name.
-/

namespace GateRollout

/-- A message that asks for a configuration. -/
inductive Intent where
  | schedule (s : Schedule)
  /-- A time slot without its schedule. -/
  | entry (e : GateEntry)
  /-- A message of another class, with its attributes. -/
  | message (className : String) (attributes : Entries)
  | value (v : Value)

namespace Intent

/-- The name of an intent's kind. -/
def typeName : Intent → String
  | schedule _ => "GateControlSchedule"
  | entry _ => "GateControlEntry"
  | message className _ => className
  | value v => v.typeName

/-- The feature that an intent names; nothing where it names none. -/
def feature : Intent → Value
  | schedule _ => .str Schedule.feature
  | entry _ => .null
  | message _ fields =>
    let own := Entries.valueAt fields "feature"
    if own.isGiven then own else Entries.valueAt fields "FEATURE"
  | value _ => .null

/-- The name of the schedule that an intent is or speaks of. -/
def scheduleId : Intent → Value
  | schedule s => .str s.id
  | message _ fields => (Entries.valueAt? fields "schedule_id").getD (.str "")
  | _ => .str ""

/-- Whether there is an intent at all. -/
def isPresent : Intent → Bool
  | value v => !v.isNull
  | _ => true

end Intent

end GateRollout
