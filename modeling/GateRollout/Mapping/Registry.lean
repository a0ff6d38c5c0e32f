import GateRollout.Mapping.Backend

/-!
# Registries

One entry for every management protocol, found by the protocol's name in any case.
-/

namespace GateRollout

/-- What is registered for protocols, under their lower-case names and in the order of
registration. -/
structure Registry (α : Type) where
  byProtocol : List (String × α)

namespace Registry

variable {σ α : Type}

/-- Nothing registered. -/
def empty : Registry α := ⟨[]⟩

/-- What is registered under a lower-case name. -/
def find? (r : Registry α) (key : String) : Option α :=
  (r.byProtocol.find? (·.1 == key)).map (·.2)

/-- Register under a name; a name that is taken is refused. -/
def insert (r : Registry α) (protocol : String) (a : α) : Except Failure (Registry α) :=
  let key := Text.lower protocol
  if (r.find? key).isSome then
    .error (.fault ⟨.wrongValue, s!"Backend for protocol '{key}' already registered"⟩)
  else .ok ⟨r.byProtocol ++ [(key, a)]⟩

/-- Register under a name, with a record of it. -/
def register (r : Registry α) (protocol : String) (a : α) : Action σ (Registry α) := do
  let r ← Action.ofExcept (r.insert protocol a)
  Action.log .info s!"Registered backend for protocol '{Text.lower protocol}'"
  return r

/-- What is registered for a protocol given as a value of any kind. -/
def get (r : Registry α) (protocol : Value) : Except Failure (Option α) :=
  if !protocol.isGiven then .ok none
  else
    match protocol with
    | .str s => .ok (r.find? (Text.lower s))
    | .bytes _ => .ok none
    | v => .error (.fault (.noAttribute v.qualifiedTypeName "lower"))

/-- Whether something is registered for a protocol. -/
def contains (r : Registry α) (protocol : Value) : Except Failure Bool :=
  return (← r.get protocol).isSome

/-- The registered names, in order. -/
def protocols (r : Registry α) : List String :=
  (r.byProtocol.map (·.1)).mergeSort fun a b => !(b < a)

end Registry

/-- A registry with all plugins of this library. -/
def defaultRegistry {σ : Type} : Action σ (Registry Backend) := do
  let backend ← Backend.ofPlugins "netconf" (Plugin.forProtocol "netconf")
  Registry.register .empty backend.protocol backend

end GateRollout
