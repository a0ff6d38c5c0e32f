import GateRollout.Transport.Backoff
import GateRollout.Transport.Connector

/-!
# Sessions

A session with a device over the management protocol.  Every failure of the layer below becomes an
error of the transport that names the device; anything else passes through.
-/

namespace GateRollout.Netconf

/-- The namespace of the protocol's own elements. -/
def baseNamespace : String := "urn:ietf:params:xml:ns:netconf:base:1.0"

/-- A piece of configuration inside the element that the protocol wants around it. -/
def wrapConfig (payload : String) : String :=
  "<config xmlns=\"" ++ baseNamespace ++ "\">" ++ payload ++ "</config>"

/-- What a device answers to a request. -/
structure Reply where
  /-- Whether the request was granted; some replies do not say, which counts as granted. -/
  granted : Option Bool
  /-- The reply as it came. -/
  text : String
  /-- The data that was asked for. -/
  data : String
  deriving Repr, DecidableEq

/-- A line to a device. -/
structure Channel (σ : Type) where
  /-- Edit a datastore: the configuration, the datastore, and what is done by default. -/
  edit : String → Value → Value → Action σ Reply
  /-- Fetch a datastore, or the part of it under a subtree. -/
  get : Value → Option Value → Action σ Reply
  close : Action σ Unit

/-- What is asked of the layer below to open a line. -/
structure Request where
  host : Value
  port : Value
  username : Value
  password : Value
  timeout : Value

/-- The layer below: a way to open a line, and to wait between two attempts. -/
structure Dialer (σ : Type) extends Backoff.Pause σ where
  dial : Request → Action σ (Channel σ)

/-- An open session with a device. -/
structure Link (σ : Type) where
  channel : Channel σ
  host : Value
  timeout : Value

variable {σ α : Type}

/-- An error of the transport concerning a device, which has to have a text. -/
def transportError (host : Value) (message : String) : Failure :=
  if host.hasText then .error { kind := .transport, message, target := some host.text }
  else .unwritten

/-- Do something whose transport faults become errors of the transport. -/
def reporting (host : Value) (what : String) (x : Action σ α) : Action σ α := do
  match ← Action.attempt x with
  | .ok a => return a
  | .error f =>
    if f.isTransportFault then throw (transportError host s!"{what} failed: {f.text}")
    else throw f

/-- What is asked to reach a target. -/
def requestFor (s : Settings) (target : Target) : Request :=
  ⟨target.management.address, target.management.port, target.management.username, target.secret,
    s.connectTimeout⟩

/-- Open a session to a target, trying again after transient failures. -/
def connect (d : Dialer σ) (s : Settings) (target : Target) : Action σ (Link σ) := do
  let m := target.management
  let policy ← Action.ofExcept (Backoff.ofSettings s)
  let host ← Action.ofExcept m.address.words
  let port ← Action.ofExcept m.port.words
  let user ← Action.ofExcept m.username.words
  let address := s!"{host}:{port}"
  Action.log .debug s!"Connecting to {address} as {user}"
  let channel ← reporting m.address s!"Connection to {address}"
    (policy.attempt d.toPause (d.dial (requestFor s target)))
  Action.log .info s!"NETCONF session established with {host}"
  return ⟨channel, m.address, s.rpcTimeout⟩

namespace Link

/-- Apply a piece of configuration; a reply that does not grant it is an error. -/
def edit (l : Link σ) (payload : String) (datastore operation : Value) : Action σ String := do
  let reply ← reporting l.host s!"edit-config on {l.host.text}"
    (l.channel.edit (wrapConfig payload) datastore operation)
  if reply.granted.getD true then return reply.text
  else throw (transportError l.host s!"edit-config on {l.host.text} rejected: {reply.text}")

/-- Fetch a datastore, or the part of it under a subtree where one is given. -/
def get (l : Link σ) (datastore subtree : Value) : Action σ String := do
  let part := if subtree.isGiven then some subtree else none
  let reply ← reporting l.host s!"get-config on {l.host.text}" (l.channel.get datastore part)
  return reply.data

/-- Close a session.  A failure of the transport is noted and goes no further. -/
def close (l : Link σ) : Action σ Unit := do
  match ← Action.attempt l.channel.close with
  | .ok () => return ()
  | .error f =>
    if f.isTransportFault then
      let host ← Action.ofExcept l.host.words
      Action.log .warning s!"Closing session to {host} failed: {f.text}"
    else throw f

/-- The session that a push uses: it merges into the running datastore. -/
def session (l : Link σ) : Session σ where
  edit payload := do let _ ← l.edit payload (.str "running") (.str "merge")
  close := l.close

end Link

/-- The connector of this transport. -/
def connector (d : Dialer σ) (s : Settings) : Connector σ where
  connect target := return (← connect d s target).session

end GateRollout.Netconf
