import GateRollout.Failure

/-!
# Targets

How a device is reached, and the port that a schedule is pushed to.  What the store does not
interpret (user, protocol, password) is kept as the data it was given as.
-/

namespace GateRollout

/-- Variables of the environment. -/
abbrev Environment := List (String × String)

/-- The value of a variable. -/
def Environment.get? (env : Environment) (name : String) : Option String :=
  (env.find? fun v => v.1 == name).map (·.2)

/-- The value of a variable that is set and not empty. -/
def Environment.given? (env : Environment) (name : String) : Option String :=
  (Environment.get? env name).filter fun s => !s.isEmpty

/-- The port of the management protocol. -/
def defaultPort : Int := 830

/-- How to reach a device. -/
structure Management where
  address : Value
  port : Value := .int defaultPort
  username : Value := .str ""
  protocol : Value := .str "netconf"
  password : Value := .null
  /-- The variable that holds the password when none is given. -/
  passwordVariable : Value := .str "NETCONF_PASSWORD"

namespace Management

/-- The names under which the parts of a management are given. -/
def fieldNames : List String :=
  ["ip_address", "port", "username", "protocol", "password", "password_env"]

/-- The management that named values describe.  Only the address has to be there, and a name that is
no part of a management is refused. -/
def ofEntries (fields : Entries) : Except Failure Management := do
  match fields.find? fun e => !(e.1.asText?.any fieldNames.contains) with
  | some (key, _) => throw (.fault ⟨.wrongType, s!"unexpected field {key.quoted}"⟩)
  | none => pure ()
  match fields.valueAt? "ip_address" with
  | none => throw (.fault ⟨.wrongType, "missing field 'ip_address'"⟩)
  | some address =>
    return {
      address
      port := (fields.valueAt? "port").getD (.int defaultPort)
      username := (fields.valueAt? "username").getD (.str "")
      protocol := (fields.valueAt? "protocol").getD (.str "netconf")
      password := fields.valueAt "password"
      passwordVariable := (fields.valueAt? "password_env").getD (.str "NETCONF_PASSWORD") }

end Management

/-- The password of a device: the one given, else the one in the environment. -/
def Management.secret (m : Management) (env : Environment) : Except Failure Value :=
  if m.password.isGiven then .ok m.password
  else
    match m.passwordVariable with
    | .str name => .ok (.str ((Environment.get? env name).getD ""))
    | v => .error (.fault ⟨.wrongType, s!"str expected, not {v.typeName}"⟩)

/-- One destination of a push: a port of a device. -/
structure Target where
  management : Management
  secret : Value
  interface : String
  nodeId : Value

namespace Target

/-- What a target's device is called: the node, or the address where the node has no name. -/
def deviceName (t : Target) : Value := if t.nodeId.isGiven then t.nodeId else t.management.address

/-- The text that names a target: its device and the port. -/
def label (t : Target) : String := t.deviceName.text ++ "/" ++ t.interface

/-- The text that names a target, whose device has to have a text. -/
def words (t : Target) : Except Failure String :=
  if t.deviceName.hasText then .ok t.label else .error .unwritten

end Target

end GateRollout
