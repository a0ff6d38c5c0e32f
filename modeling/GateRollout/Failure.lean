import GateRollout.Value.Text

/-!
# Failures

What can go wrong.  A `RolloutError` is a failure that the rollout itself states, with the plugin and
target it concerns; a `Fault` comes from outside: the network, the operating system, the session
library, or data of an unexpected kind.  A fault is classified by what it is, and its family decides
whether a connection attempt is repeated and whether the transport layer reports it.
-/

namespace GateRollout

/-- The kinds of error that the rollout states. -/
inductive ErrorKind where
  | general
  /-- No plugin maps the feature for the device. -/
  | unsupportedFeature
  /-- The intent cannot be represented in the target schema. -/
  | mapping
  /-- A document is no intent. -/
  | parse
  /-- A session could not be established or used. -/
  | transport
  /-- A model, topology or configuration could not be fetched. -/
  | store
  /-- A node or configuration does not exist. -/
  | notFound
  deriving Repr, DecidableEq

namespace ErrorKind

/-- The name under which a kind is reported. -/
def name : ErrorKind → String
  | general => "TSNConfigError"
  | unsupportedFeature => "UnsupportedFeatureError"
  | mapping => "MappingError"
  | parse => "ParseError"
  | transport => "TransportError"
  | store => "StoreError"
  | notFound => "NotFoundError"

/-- All kinds. -/
def all : List ErrorKind :=
  [general, unsupportedFeature, mapping, parse, transport, store, notFound]

/-- The kind with a name. -/
def ofName? (s : String) : Option ErrorKind := all.find? (·.name == s)

/-- The next more general kind. -/
def parent? : ErrorKind → Option ErrorKind
  | general => none
  | parse => some mapping
  | notFound => some store
  | _ => some general

/-- A kind and all more general ones, from the most special. -/
def lineage : ErrorKind → List ErrorKind
  | general => [general]
  | parse => [parse, mapping, general]
  | notFound => [notFound, store, general]
  | k => [k, general]

/-- Whether a kind belongs to another or to a more special one. -/
def isA (k ancestor : ErrorKind) : Bool := k.lineage.contains ancestor

/-- Whether trying again may help. -/
def retryable : ErrorKind → Bool
  | transport => true
  | store => true
  | _ => false

end ErrorKind

/-- An error of the rollout, with the plugin and target it concerns. -/
structure RolloutError where
  kind : ErrorKind
  message : String
  plugin : Option String := none
  target : Option String := none
  deriving Repr, DecidableEq

/-- The name of a class of faults, which is never empty. -/
structure ClassName where
  text : String
  nonempty : text ≠ "" := by decide
  deriving Repr, DecidableEq

/-- The name of failures of the operating system in general. -/
def ClassName.osError : ClassName := { text := "OSError" }

/-- What a fault from outside is. -/
inductive FaultKind where
  | connectionRefused
  | connectionReset
  | timedOut
  /-- Any other failure of the operating system, under its own name. -/
  | system (name : ClassName)
  | endOfInput
  | ssh
  | sshAuthentication
  /-- A failure of the session library without a more special kind. -/
  | session
  | sessionTimeout
  | sessionTransport
  | sessionSsh
  | sessionAuthentication
  /-- Data of a kind that an operation does not take. -/
  | wrongType
  /-- Data of the right kind with a value that an operation does not take. -/
  | wrongValue
  | missingKey
  | missingAttribute
  | overflow
  | notImplemented
  | undecodable
  | malformedJson
  /-- Anything else, under its own name. -/
  | other (name : ClassName)
  /-- A special kind of another, under its own name. -/
  | special (name : ClassName) (general : FaultKind)
  deriving Repr, DecidableEq

namespace FaultKind

/-- The name under which a kind is reported. -/
def name : FaultKind → String
  | connectionRefused => "ConnectionRefusedError"
  | connectionReset => "ConnectionResetError"
  | timedOut => "TimeoutError"
  | system n => n.text
  | endOfInput => "EOFError"
  | ssh => "SSHException"
  | sshAuthentication => "AuthenticationException"
  | session => "NCClientError"
  | sessionTimeout => "TimeoutExpiredError"
  | sessionTransport => "TransportError"
  | sessionSsh => "SSHError"
  | sessionAuthentication => "AuthenticationError"
  | wrongType => "TypeError"
  | wrongValue => "ValueError"
  | missingKey => "KeyError"
  | missingAttribute => "AttributeError"
  | overflow => "OverflowError"
  | notImplemented => "NotImplementedError"
  | undecodable => "UnicodeDecodeError"
  | malformedJson => "JSONDecodeError"
  | other n => n.text
  | special n _ => n.text

/-- Whether opening a session is tried again after a fault of this kind. -/
def isTransient : FaultKind → Bool
  | connectionRefused => true
  | connectionReset => true
  | timedOut => true
  | endOfInput => true
  | ssh => true
  | sshAuthentication => true
  | sessionSsh => true
  | special _ k => k.isTransient
  | _ => false

/-- Whether a fault of this kind is a failure of the transport. -/
def isTransport : FaultKind → Bool
  | connectionRefused => true
  | connectionReset => true
  | timedOut => true
  | system _ => true
  | endOfInput => true
  | ssh => true
  | sshAuthentication => true
  | session => true
  | sessionTimeout => true
  | sessionTransport => true
  | sessionSsh => true
  | sessionAuthentication => true
  | special _ k => k.isTransport
  | _ => false

/-- Whether a fault of this kind says that a value was not acceptable. -/
def isValueFault : FaultKind → Bool
  | wrongValue => true
  | undecodable => true
  | malformedJson => true
  | special _ k => k.isValueFault
  | _ => false

/-- The special kind of a failure of the operating system with an error number. -/
def ofNumber : Int → FaultKind
  | 1 => .system { text := "PermissionError" }
  | 2 => .system { text := "FileNotFoundError" }
  | 3 => .system { text := "ProcessLookupError" }
  | 4 => .system { text := "InterruptedError" }
  | 10 => .system { text := "ChildProcessError" }
  | 11 => .system { text := "BlockingIOError" }
  | 13 => .system { text := "PermissionError" }
  | 17 => .system { text := "FileExistsError" }
  | 20 => .system { text := "NotADirectoryError" }
  | 21 => .system { text := "IsADirectoryError" }
  | 32 => .system { text := "BrokenPipeError" }
  | 103 => .system { text := "ConnectionAbortedError" }
  | 104 => .connectionReset
  | 108 => .system { text := "BrokenPipeError" }
  | 110 => .timedOut
  | 111 => .connectionRefused
  | 114 => .system { text := "BlockingIOError" }
  | 115 => .system { text := "BlockingIOError" }
  | _ => .system .osError

/-- Whether a kind belongs to the operating system. -/
def isSystem : FaultKind → Bool
  | connectionRefused => true
  | connectionReset => true
  | timedOut => true
  | system _ => true
  | special _ k => k.isSystem
  | _ => false

/-- The names of failures of the operating system without a kind of their own. -/
def systemNames : List ClassName :=
  [.osError, { text := "BlockingIOError" }, { text := "ChildProcessError" },
    { text := "ConnectionError" }, { text := "BrokenPipeError" }, { text := "ConnectionAbortedError" },
    { text := "FileExistsError" }, { text := "FileNotFoundError" }, { text := "InterruptedError" },
    { text := "IsADirectoryError" }, { text := "NotADirectoryError" }, { text := "PermissionError" },
    { text := "ProcessLookupError" }, { text := "gaierror" }]

/-- The kinds that are known by their names alone. -/
def named : List FaultKind :=
  [connectionRefused, connectionReset, timedOut, endOfInput, ssh, session, sessionTimeout,
    sessionSsh, sessionAuthentication, wrongType, wrongValue, missingKey, missingAttribute,
    overflow, notImplemented] ++ systemNames.map system

/-- The kind with a name; one without a name is known as an exception. -/
def ofName (s : String) : FaultKind :=
  (named.find? (·.name == s)).getD
    (other (if h : s = "" then { text := "Exception" } else ⟨s, h⟩))

end FaultKind

/-- A failure from outside: what it is and the text that came with it. -/
structure Fault where
  kind : FaultKind
  text : String
  deriving Repr, DecidableEq

namespace Fault

/-- The text of a fault of a kind that came with some arguments, however long their integers are. -/
def reportText (kind : FaultKind) (args : List Value) : String :=
  match args with
  | [] => ""
  | [v] => if kind == .missingKey then v.quoted else v.text
  | [number, message] =>
    if kind.isSystem then s!"[Errno {number.text}] {message.text}" else (Value.tuple args).text
  | [number, message, file] =>
    if kind.isSystem then s!"[Errno {number.text}] {message.text}: {file.quoted}"
    else (Value.tuple args).text
  | _ => (Value.tuple args).text

/-- A fault of a kind with the arguments that came with it; the error number of the operating system
may make the kind a more special one. -/
def ofReport (kind : FaultKind) (args : List Value) : Fault :=
  let kind := match kind, args with
    | .system ⟨"OSError", _⟩, .int n :: _ :: _ => .ofNumber n
    | k, _ => k
  ⟨kind, reportText kind args⟩

/-- Going through a value that has no members. -/
def notIterable (v : Value) : Fault :=
  ⟨.wrongType, s!"'{v.qualifiedTypeName}' object is not iterable"⟩

/-- Data that cannot be a key. -/
def unhashable (typeName : String) : Fault :=
  ⟨.wrongType, s!"unhashable type: '{typeName}'"⟩

/-- A value without an attribute. -/
def noAttribute (typeName name : String) : Fault :=
  ⟨.missingAttribute, s!"'{typeName}' object has no attribute '{name}'"⟩

/-- A map without a key. -/
def noKey (key : Value) : Fault := ⟨.missingKey, key.quoted⟩

/-- Writing an integer of too many digits. -/
def unwritten : Fault := ⟨.wrongValue, Text.unwrittenMessage⟩

end Fault

namespace Value

/-- The text of a value, which has to have one. -/
def written (v : Value) : Except Fault String :=
  if v.hasText then .ok v.text else .error .unwritten

/-- The text of a value inside another value, which has to have one. -/
def writtenQuoted (v : Value) : Except Fault String :=
  if v.hasText then .ok v.quoted else .error .unwritten

end Value

/-- A failure: an error of the rollout or a fault from outside. -/
inductive Failure where
  | error (e : RolloutError)
  | fault (f : Fault)
  deriving Repr, DecidableEq

namespace Failure

/-- The text of a failure. -/
def text : Failure → String
  | error e => e.message
  | fault f => f.text

/-- The name of a failure's kind. -/
def kindName : Failure → String
  | error e => e.kind.name
  | fault f => f.kind.name

/-- An error of a kind, concerning no plugin and no target. -/
def ofKind (kind : ErrorKind) (message : String) : Failure := .error { kind, message }

/-- Writing an integer of too many digits. -/
def unwritten : Failure := .fault .unwritten

/-- Whether a failure is a failure of the transport in the sense of the session library. -/
def isTransportFault : Failure → Bool
  | error _ => false
  | fault f => f.kind.isTransport

/-- Whether opening a session is tried again after a failure. -/
def isTransient : Failure → Bool
  | error _ => false
  | fault f => f.kind.isTransient

/-- A failure by the name of its kind and the arguments that came with it. -/
def ofReport (name : String) (args : List Value) : Failure :=
  match ErrorKind.ofName? name with
  | some kind =>
    let textOf (v : Value) : Option String := if v.isNull then none else some v.text
    .error
      { kind
        message := (args[0]?.map Value.text).getD ""
        plugin := args[1]?.bind textOf
        target := args[2]?.bind textOf }
  | none => .fault (.ofReport (.ofName name) args)

end Failure

/-- The text of a value in a message, which has to have one. -/
def Value.words (v : Value) : Except Failure String := v.written.mapError .fault

end GateRollout
