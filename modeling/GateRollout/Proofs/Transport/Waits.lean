import GateRollout.Transport.Backoff
import Mathlib.Algebra.Order.Ring.Rat
import Mathlib.Algebra.Order.Ring.Basic
import Mathlib.Tactic.NormNum

/-!
# Waits between attempts

Durations are ordered by their length, and one without end is the longest.  A policy whose least wait is
at most its greatest doubles the wait from one attempt to the next until the greatest wait is reached:
the waits never become shorter, and none is longer than the greatest.
-/

namespace GateRollout

namespace Duration

/-! ## The order of durations -/

/-- A duration is at most as long as another. -/
def AtMost : Duration → Duration → Prop
  | _, endless => True
  | endless, seconds _ => False
  | seconds p, seconds q => p ≤ q

instance : LE Duration := ⟨AtMost⟩

@[simp] theorem le_endless (d : Duration) : d ≤ endless := by
  cases d <;> exact trivial

@[simp] theorem seconds_le_seconds {p q : Rat} : seconds p ≤ seconds q ↔ p ≤ q := Iff.rfl

@[simp] theorem not_endless_le_seconds (q : Rat) : ¬endless ≤ seconds q := id

instance : Preorder Duration where
  le_refl d := by cases d <;> simp
  le_trans d e f hde hef := by
    cases f with
    | endless => exact le_endless d
    | seconds r =>
      cases e with
      | endless => exact absurd hef (not_endless_le_seconds r)
      | seconds q =>
        cases d with
        | endless => exact absurd hde (not_endless_le_seconds q)
        | seconds p => exact le_trans (seconds_le_seconds.1 hde) (seconds_le_seconds.1 hef)

/-! ## Least, greatest and double -/

@[simp] theorem min_seconds (p q : Rat) : (seconds p).min (seconds q) = seconds (Min.min p q) := by
  rw [Duration.min]
  split
  case isTrue h => rw [min_eq_right h.le]
  case isFalse h => rw [min_eq_left (not_lt.1 h)]

@[simp] theorem max_seconds (p q : Rat) : (seconds p).max (seconds q) = seconds (Max.max p q) := by
  rw [Duration.max]
  split
  case isTrue h => rw [max_eq_right h.le]
  case isFalse h => rw [max_eq_left (not_lt.1 h)]

@[simp] theorem endless_min (d : Duration) : endless.min d = d := rfl

@[simp] theorem min_endless (d : Duration) : d.min endless = d := by cases d <;> rfl

@[simp] theorem endless_max (d : Duration) : endless.max d = endless := rfl

@[simp] theorem max_endless (d : Duration) : d.max endless = endless := by cases d <;> rfl

theorem min_le_right (d e : Duration) : d.min e ≤ e := by
  cases d <;> cases e <;> simp

theorem min_eq_of_le {d e : Duration} (h : d ≤ e) : d.min e = d := by
  cases d <;> cases e <;> simp_all

@[simp] theorem max_self (d : Duration) : d.max d = d := by cases d <;> simp

@[simp] theorem double_zero (d : Duration) : d.double 0 = d := by cases d <;> simp [double]

theorem max_le {d e f : Duration} (hd : d ≤ f) (he : e ≤ f) : d.max e ≤ f := by
  cases d <;> cases e <;> cases f <;> simp_all

theorem min_le_min_right {d e : Duration} (h : d ≤ e) (f : Duration) : d.min f ≤ e.min f := by
  cases d with
  | endless => cases e <;> simp_all
  | seconds p =>
    cases e with
    | endless => exact min_le_right _ f
    | seconds q =>
      cases f with
      | endless => exact h
      | seconds r =>
        rw [min_seconds, min_seconds, seconds_le_seconds]
        exact min_le_min (seconds_le_seconds.1 h) (le_refl r)

theorem max_le_max_right {d e : Duration} (h : d ≤ e) (f : Duration) : d.max f ≤ e.max f := by
  cases d with
  | endless => cases e <;> simp_all
  | seconds p =>
    cases e <;> cases f
    case seconds.seconds q r =>
      rw [max_seconds, max_seconds, seconds_le_seconds]
      exact max_le_max (seconds_le_seconds.1 h) (le_refl r)
    all_goals simp

/-- Doubling more often gives no shorter duration. -/
theorem double_le_double {d : Duration} (hd : seconds 0 ≤ d) {i k : Nat} (h : i ≤ k) :
    d.double i ≤ d.double k := by
  cases d with
  | endless => exact le_refl endless
  | seconds q =>
    rw [double, double, seconds_le_seconds]
    exact mul_le_mul_of_nonneg_left (pow_le_pow_right₀ (by norm_num) h) (seconds_le_seconds.1 hd)

/-! ## Durations as values -/

/-- A value is a number of seconds, none below zero, that a duration lasts. -/
inductive IsValue : Value → Duration → Prop
  | seconds {v : Value} {n : Int} {d : Nat} (h : v.fraction? = some (n, d)) (hn : 0 ≤ n) :
      IsValue v (.seconds (mkRat n d))
  | endless {v : Value} (h : v.infinity? = some false) : IsValue v .endless

theorem fraction?_of_infinity {v : Value} {negative : Bool} (h : v.infinity? = some negative) :
    v.fraction? = none := by
  cases v with
  | float x =>
    rw [Value.infinity?] at h
    rw [Value.fraction?]
    cases hx : Decimal.Binary.ofFloat x <;> simp_all
  | decimal d => cases d <;> simp_all [Value.infinity?, Value.fraction?]
  | _ => cases h

theorem IsValue.ofValue {v : Value} {d : Duration} (h : IsValue v d) (fallback : Duration) :
    ofValue fallback v = .ok d := by
  cases h with
  | seconds h hn => simp [Duration.ofValue, h, Int.not_lt.2 hn]
  | endless h => simp [Duration.ofValue, h, fraction?_of_infinity h]

theorem IsValue.nonneg {v : Value} {d : Duration} (h : IsValue v d) : Duration.seconds 0 ≤ d := by
  cases h with
  | seconds _ hn => exact seconds_le_seconds.2 (Rat.mkRat_nonneg hn _)
  | endless _ => exact le_endless _

end Duration

namespace Backoff

/-! ## The waits of a policy -/

/-- The waits after the first `k` attempts. -/
def waits (b : Backoff) (k : Nat) : List Duration := (List.range k).map fun i => b.waitAfter (i + 1)

@[simp] theorem length_waits (b : Backoff) (k : Nat) : (b.waits k).length = k := by simp [waits]

theorem waits_succ (b : Backoff) (k : Nat) : b.waits (k + 1) = b.waits k ++ [b.waitAfter (k + 1)] := by
  rw [waits, waits, List.range_succ, List.map_append, List.map_singleton]

variable {b : Backoff}

/-- The first wait is the least. -/
theorem waits_one (h : b.minWait ≤ b.maxWait) : b.waits 1 = [b.minWait] := by
  simp [waits, waitAfter, Duration.min_eq_of_le h]

theorem waitAfter_le (h : b.minWait ≤ b.maxWait) (attempt : Nat) : b.waitAfter attempt ≤ b.maxWait :=
  Duration.max_le (Duration.min_le_right _ _) h

theorem waitAfter_mono (h : .seconds 0 ≤ b.minWait) {i k : Nat} (hik : i ≤ k) :
    b.waitAfter i ≤ b.waitAfter k :=
  have hdouble := Duration.double_le_double h (Nat.sub_le_sub_right hik 1)
  Duration.max_le_max_right (Duration.min_le_min_right hdouble _) _

/-- No wait is shorter than one before it. -/
theorem pairwise_waits (h : .seconds 0 ≤ b.minWait) (k : Nat) : (b.waits k).Pairwise (· ≤ ·) := by
  rw [waits, List.pairwise_map]
  exact List.pairwise_lt_range.imp fun hlt => waitAfter_mono h (by omega)

theorem le_of_mem_waits (h : b.minWait ≤ b.maxWait) {k : Nat} {t : Duration} (ht : t ∈ b.waits k) :
    t ≤ b.maxWait := by
  obtain ⟨i, -, rfl⟩ := List.mem_map.1 ht
  exact waitAfter_le h _

/-! ## Policies of settings -/

theorem attemptsOf_of_whole {v : Value} {n : Nat} (h : v.fraction? = some ((n : Int), 1)) :
    attemptsOf v = .ok n := by
  simp [attemptsOf, h, Int.fdiv_one]

/-- Settings that give a whole number of attempts and two durations give the policy of these. -/
theorem ofSettings_eq {s : Settings} {n : Nat} {least greatest : Duration}
    (hn : s.connectRetries.fraction? = some ((n : Int), 1)) (hleast : Duration.IsValue s.retryMinWait least)
    (hgreatest : Duration.IsValue s.retryMaxWait greatest) : ofSettings s = .ok ⟨n, least, greatest⟩ := by
  rw [ofSettings, ofValues, hleast.ofValue, hgreatest.ofValue, attemptsOf_of_whole hn]
  rfl

end Backoff

end GateRollout
