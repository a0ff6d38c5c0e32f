import GateRollout.Settings
import GateRollout.Journal

/-!
# Repeated attempts

A policy for opening a session: how many attempts, and how long to wait between two of them.  The
wait doubles from one attempt to the next, between a least and a greatest wait.  Waits are exact.
-/

namespace GateRollout

/-- A length of time in seconds, which may have no end. -/
inductive Duration where
  | seconds (q : Rat)
  | endless
  deriving Repr, DecidableEq

namespace Duration

/-- The lesser of two durations. -/
def min : Duration → Duration → Duration
  | endless, d => d
  | d, endless => d
  | seconds p, seconds q => seconds (if q < p then q else p)

/-- The greater of two durations. -/
def max : Duration → Duration → Duration
  | endless, _ => endless
  | _, endless => endless
  | seconds p, seconds q => seconds (if p < q then q else p)

/-- A duration doubled a number of times. -/
def double (times : Nat) : Duration → Duration
  | seconds q => seconds (q * 2 ^ times)
  | endless => endless

/-- The duration that a number of seconds is; less than nothing and what is no number count as
`fallback`. -/
def ofValue (fallback : Duration) (v : Value) : Except Failure Duration :=
  match v.fraction?, v.infinity?, v with
  | some (n, d), _, _ => .ok (seconds (if n < 0 then 0 else mkRat n d))
  | none, some negative, _ => .ok (if negative then seconds 0 else endless)
  | none, none, .float _ => .ok fallback
  | none, none, v =>
    .error (.fault ⟨.wrongType, s!"a number of seconds is needed, not '{v.typeName}'"⟩)

/-- The double that stands for a duration. -/
def toFloat : Duration → Float
  | seconds q => (Float.ofInt q.num).scaleB (-(q.den.log2 : Int))
  | endless => 1.0 / 0.0

end Duration

/-- A policy for repeated attempts. -/
structure Backoff where
  attempts : Nat
  minWait : Duration
  maxWait : Duration
  deriving Repr, DecidableEq

namespace Backoff

/-- The wait after an attempt, the first of which is attempt 1. -/
def waitAfter (b : Backoff) (attempt : Nat) : Duration :=
  (b.minWait.double (attempt - 1)).min b.maxWait |>.max b.minWait

/-- The least whole number of attempts that a number asks for.  A policy without end is held to a
number that no run reaches. -/
def attemptsOf (v : Value) : Except Failure Nat :=
  match v.fraction?, v.infinity?, v with
  | some (n, d), _, _ => .ok (-(Int.fdiv (-n) d)).toNat
  | none, some negative, _ => .ok (if negative then 0 else Nat.pow 2 63)
  | none, none, .float _ => .ok (Nat.pow 2 63)
  | none, none, v =>
    .error (.fault ⟨.wrongType, s!"a number of attempts is needed, not '{v.typeName}'"⟩)

/-- The policy with a number of attempts, a least and a greatest wait. -/
def ofValues (attempts minWait maxWait : Value) : Except Failure Backoff := do
  let least ← Duration.ofValue (.seconds 0) minWait
  let greatest ← Duration.ofValue .endless maxWait
  return ⟨← attemptsOf attempts, least, greatest⟩

/-- The policy that named values describe, by default three
attempts one to ten seconds apart.  A name that is no part of
a policy is refused. -/
def ofEntries (given : Entries) : Except Failure Backoff := do
  match given.find? fun e => !(e.1.asText?.any ["max_attempts", "min_wait", "max_wait"].contains) with
  | some (key, _) => throw (.fault ⟨.wrongType, s!"unexpected part {key.quoted}"⟩)
  | none => pure ()
  ofValues ((given.valueAt? "max_attempts").getD (.int 3)) ((given.valueAt? "min_wait").getD (.int 1))
    ((given.valueAt? "max_wait").getD (.int 10))

/-- The policy of some settings. -/
def ofSettings (s : Settings) : Except Failure Backoff :=
  ofValues s.connectRetries s.retryMinWait s.retryMaxWait

variable {σ α : Type}

/-- How one waits between two attempts. -/
structure Pause (σ : Type) where
  sleep : Duration → Action σ Unit
  /-- The warning before a wait, which tells of the failure that it follows. -/
  warning : Duration → Failure → String

/-- Wait after an attempt that failed, with a warning. -/
def Pause.after (p : Pause σ) (d : Duration) (f : Failure) : Action σ Unit := do
  Action.logAside .warning (p.warning d f)
  p.sleep d

/-- Attempt `k`, with at most `more` attempts after it. -/
def attemptFrom (b : Backoff) (p : Pause σ) (x : Action σ α) : Nat → Nat → Action σ α
  | 0, _ => x
  | more + 1, k => do
    match ← Action.attempt x with
    | .ok a => return a
    | .error f =>
      if f.isTransient then
        p.after (b.waitAfter k) f
        attemptFrom b p x more (k + 1)
      else throw f

/-- Attempt an action until it succeeds, fails for good, or the attempts are used up; the last failure
stands.  There is always one attempt. -/
def attempt (b : Backoff) (p : Pause σ) (x : Action σ α) : Action σ α :=
  b.attemptFrom p x (b.attempts - 1) 1

end Backoff

end GateRollout
