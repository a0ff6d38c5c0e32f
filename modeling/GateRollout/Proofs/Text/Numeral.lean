import GateRollout.Text.Numeral
import Mathlib.Algebra.Group.Nat.Defs

/-!
# Numerals are read back

The decimal text of an integer is read as that integer, as long as it has no more digits than are
converted.  So no two integers have the same text.  An integer is written when it is small enough.
-/

namespace GateRollout.Text

/-! ## Blanks -/

/-- What holds no blank is not trimmed. -/
theorem trimBy_eq_self {p : Char → Bool} {s : List Char} (h : ∀ c ∈ s, p c = false) : trimBy p s = s := by
  have hdrop : ∀ t : List Char, (∀ c ∈ t, p c = false) → t.dropWhile p = t := by
    intro t ht
    cases t with
    | nil => rfl
    | cons c t => rw [List.dropWhile_cons_of_neg (by simp [ht c List.mem_cons_self])]
  rw [trimBy, hdrop s h, hdrop s.reverse fun c hc => h c (List.mem_reverse.1 hc), List.reverse_reverse]

theorem isBlank_of_graphic {c : Char} (h : 33 ≤ c.toNat ∧ c.toNat ≤ 126) : isBlank c = false := by
  simp only [isBlank]
  grind

theorem isNumeralBlank_of_graphic {c : Char} (h : 33 ≤ c.toNat ∧ c.toNat ≤ 126) :
    isNumeralBlank c = false := by
  rw [isNumeralBlank, isBlank_of_graphic h, Bool.false_and]

/-! ## Digits -/

theorem toNat_of_isDigit {c : Char} (h : c.isDigit = true) : 48 ≤ c.toNat ∧ c.toNat ≤ 57 := by
  simp only [Char.isDigit, Bool.and_eq_true, decide_eq_true_eq] at h
  exact h

theorem decimalDigit?_of_isDigit {c : Char} (h : c.isDigit = true) :
    decimalDigit? c = some (c.toNat - 48) := by
  have := toNat_of_isDigit h
  rw [decimalDigit?, if_pos (by omega), if_pos h]

theorem isDigit_of_mem_natDigits {n : Nat} {c : Char} (h : c ∈ natDigits n) : c.isDigit = true :=
  Nat.isDigit_of_mem_toDigits (by decide) (by decide) h

theorem digitValues?_of_isDigit {s : List Char} (hs : s ≠ []) (h : ∀ c ∈ s, c.isDigit = true) :
    digitValues? s = some (s.map fun c => c.toNat - 48) := by
  induction s with
  | nil => exact absurd rfl hs
  | cons c rest ih =>
    rw [List.forall_mem_cons] at h
    cases rest with
    | nil => rw [digitValues?, decimalDigit?_of_isDigit h.1]; rfl
    | cons d rest =>
      have hd : d ≠ '_' := by
        rintro rfl
        exact absurd (h.2 _ List.mem_cons_self) (by decide)
      rw [digitValues?, decimalDigit?_of_isDigit h.1, ih (List.cons_ne_nil _ _) h.2]
      · rfl
      · simp
      · rintro _ ⟨⟩
        exact hd rfl

theorem ofDigitValues_natDigits (n : Nat) :
    ofDigitValues ((natDigits n).map fun c => c.toNat - 48) = n := by
  rw [ofDigitValues, List.foldl_map, natDigits]
  exact Nat.ofDigitChars_eq_foldl.symm.trans Nat.ofDigitChars_ten_toDigits

/-! ## Integers -/

theorem splitSign_natDigits (n : Nat) : splitSign (natDigits n) = (false, natDigits n) := by
  have hdigit : ∀ c ∈ natDigits n, c.isDigit = true := fun c => isDigit_of_mem_natDigits
  cases h : natDigits n with
  | nil => rfl
  | cons c rest =>
    rw [h, List.forall_mem_cons] at hdigit
    unfold splitSign
    split
    case h_1 hc =>
      cases hc
      exact absurd hdigit.1 (by decide)
    case h_2 hc =>
      cases hc
      exact absurd hdigit.1 (by decide)
    case h_3 => rfl

theorem graphic_of_mem_intDigits {n : Int} {c : Char} (h : c ∈ intDigits n) :
    33 ≤ c.toNat ∧ c.toNat ≤ 126 := by
  have hdigit : ∀ m, c ∈ natDigits m → 33 ≤ c.toNat ∧ c.toNat ≤ 126 := by
    intro m hm
    have := toNat_of_isDigit (isDigit_of_mem_natDigits hm)
    omega
  cases n with
  | ofNat m => exact hdigit m h
  | negSucc m =>
    rcases List.mem_cons.1 h with rfl | h
    · decide
    · exact hdigit _ h

theorem readInt_natDigits {n : Nat} (negative : Bool) (h : (natDigits n).length ≤ maxNumeralDigits)
    {s : List Char} (htrim : trimBy isNumeralBlank s = s) (hs : splitSign s = (negative, natDigits n)) :
    readInt s = .ok (if negative then -(n : Int) else n) := by
  have hvalues := digitValues?_of_isDigit (s := natDigits n) Nat.toDigits_ne_nil fun c =>
    isDigit_of_mem_natDigits
  simp only [readInt, htrim, hs, hvalues, List.length_map, ofDigitValues_natDigits,
    if_neg (Nat.not_lt.2 h)]

/-- The decimal text of an integer is read as the integer. -/
theorem readInt_intDigits {n : Int} (h : numeralLength n ≤ maxNumeralDigits) :
    readInt (intDigits n) = .ok n := by
  have htrim : trimBy isNumeralBlank (intDigits n) = intDigits n :=
    trimBy_eq_self fun c hc => isNumeralBlank_of_graphic (graphic_of_mem_intDigits hc)
  cases n with
  | ofNat m => exact readInt_natDigits false h htrim (splitSign_natDigits m)
  | negSucc m => exact readInt_natDigits true h htrim rfl

theorem readInt_long_natDigits {n : Nat} {negative : Bool} (h : maxNumeralDigits < (natDigits n).length)
    {s : List Char} (htrim : trimBy isNumeralBlank s = s) (hs : splitSign s = (negative, natDigits n)) :
    readInt s = .error (.tooLong (natDigits n).length) := by
  have hvalues := digitValues?_of_isDigit (s := natDigits n) Nat.toDigits_ne_nil fun c =>
    isDigit_of_mem_natDigits
  simp only [readInt, htrim, hs, hvalues, List.length_map, if_pos h]

/-- The decimal text of an integer with more digits than are converted is not read. -/
theorem readInt_long_intDigits {n : Int} (h : maxNumeralDigits < numeralLength n) :
    readInt (intDigits n) = .error (.tooLong (numeralLength n)) := by
  have htrim : trimBy isNumeralBlank (intDigits n) = intDigits n :=
    trimBy_eq_self fun c hc => isNumeralBlank_of_graphic (graphic_of_mem_intDigits hc)
  cases n with
  | ofNat m => exact readInt_long_natDigits h htrim (splitSign_natDigits m)
  | negSucc m => exact readInt_long_natDigits h htrim rfl

/-- An integer is written when it lies below the power of ten with as many zeros as digits are written. -/
theorem isWritten_iff {n : Int} : isWritten n = true ↔ n.natAbs < 10 ^ maxNumeralDigits := by
  rw [isWritten, decide_eq_true_eq, numeralLength, natDigits,
    Nat.length_toDigits_le_iff (by decide) (by decide)]

/-- An integer of no more than `k` digits is written when numerals may have as many. -/
theorem isWritten_of_lt {n : Int} {k : Nat} (hk : k ≤ maxNumeralDigits) (h : n.natAbs < 10 ^ k) :
    isWritten n = true :=
  isWritten_iff.2 (Nat.lt_of_lt_of_le h (Nat.pow_le_pow_right (by decide) hk))

theorem foldl_digits_lt {ds : List Nat} (h : ∀ d ∈ ds, d < 10) {a k : Nat} (ha : a < 10 ^ k) :
    ds.foldl (fun n d => 10 * n + d) a < 10 ^ (k + ds.length) := by
  induction ds generalizing a k with
  | nil => exact ha
  | cons d ds ih =>
    obtain ⟨hd, hds⟩ := List.forall_mem_cons.1 h
    have hnext : 10 * a + d < 10 ^ (k + 1) := by
      rw [Nat.pow_succ]
      omega
    rw [List.foldl_cons, List.length_cons, ← Nat.add_assoc, Nat.add_right_comm]
    exact ih hds hnext

/-- Digits denote a number below the power of ten with as many zeros. -/
theorem ofDigitValues_lt {ds : List Nat} (h : ∀ d ∈ ds, d < 10) : ofDigitValues ds < 10 ^ ds.length := by
  have hlt := foldl_digits_lt h (show 0 < 10 ^ 0 from Nat.one_pos)
  rwa [Nat.zero_add] at hlt

/-- The least natural number that is not written. -/
def leastUnwritten : Nat := 10 ^ maxNumeralDigits

theorem isWritten_leastUnwritten : isWritten leastUnwritten = false := by
  rw [← Bool.not_eq_true, isWritten_iff, Int.natAbs_natCast]
  exact Nat.lt_irrefl _

theorem natDigits_injective {m n : Nat} (h : natDigits m = natDigits n) : m = n := by
  rw [← ofDigitValues_natDigits m, h, ofDigitValues_natDigits]

/-- No two integers have the same decimal text. -/
theorem intText_injective {m n : Int} (h : intText m = intText n) : m = n := by
  have hdigits : intDigits m = intDigits n := String.ofList_injective h
  have hminus : ∀ k l, natDigits k ≠ '-' :: l := by
    intro k l hk
    have hdigit := isDigit_of_mem_natDigits (n := k) (hk ▸ List.mem_cons_self)
    exact absurd hdigit (by decide)
  cases m with
  | ofNat m =>
    cases n with
    | ofNat n => exact congrArg Int.ofNat (natDigits_injective hdigits)
    | negSucc n => exact absurd hdigits (hminus _ _)
  | negSucc m =>
    cases n with
    | ofNat n => exact absurd hdigits.symm (hminus _ _)
    | negSucc n =>
      have := natDigits_injective (List.cons.inj hdigits).2
      rw [Nat.succ.inj this]

end GateRollout.Text
