import GateRollout.Proofs.Journal
import GateRollout.Proofs.Value.Entries
import GateRollout.Proofs.Text.Numeral
import GateRollout.Proofs.Text.Hex
import GateRollout.Json.Parser
import GateRollout.Json.Printer
import Mathlib.Data.Nat.Init

/-!
# Texts and numbers are read back

A text between quotes and a number in digits are read back as what was written, whatever stands behind them
— for a number, unless its digits go on there.  What is read of an escape is the character that was
escaped, also where it takes two units.
-/

namespace GateRollout.Json

open Text

/-! ## Texts -/

/-- A text up to a closing quote is read as some characters, and a rest is left behind the quote. -/
def ReadsBody (s cs rest : List Char) : Prop := ∃ h, stringBody s = .ok (cs, ⟨rest, h⟩)

theorem digitChar_eq_hexDigit {n : Nat} (h : n < 16) : n.digitChar = hexDigit n := by
  have hall : ∀ n < 16, n.digitChar = hexDigit n := by decide
  exact hall n h

theorem hexPadded_one {n : Nat} (h : n < 16) : hexPadded 1 n = [hexDigit n] := by
  rw [hexPadded, Nat.toDigits_of_lt_base h, digitChar_eq_hexDigit h]
  rfl

/-- The last digit of a padded number stands behind those of the rest. -/
theorem hexPadded_succ {width : Nat} (hwidth : 0 < width) (n : Nat) :
    hexPadded (width + 1) n = hexPadded width (n / 16) ++ [hexDigit (n % 16)] := by
  rw [← digitChar_eq_hexDigit (Nat.mod_lt n (by decide))]
  by_cases h : 16 ≤ n
  · simp only [hexPadded, Nat.toDigits_of_base_le (by decide) h, List.length_append, List.length_singleton,
      Nat.add_sub_add_right, List.append_assoc]
  · have hn : n < 16 := Nat.lt_of_not_le h
    obtain ⟨w, rfl⟩ : ∃ w, width = w + 1 := ⟨width - 1, by omega⟩
    simp only [hexPadded, Nat.toDigits_of_lt_base hn, Nat.div_eq_of_lt hn, Nat.mod_eq_of_lt hn,
      Nat.toDigits_zero, List.length_singleton, Nat.add_sub_cancel]
    rw [List.replicate_succ']

theorem hexPadded_four {n : Nat} (h : n < 0x10000) :
    hexPadded 4 n =
      [hexDigit (n / 4096), hexDigit (n / 256 % 16), hexDigit (n / 16 % 16), hexDigit (n % 16)] := by
  rw [hexPadded_succ (by decide), hexPadded_succ (by decide), hexPadded_succ (by decide),
    hexPadded_one (by omega)]
  simp only [Nat.div_div_eq_div_mul, Nat.reduceMul, List.cons_append, List.nil_append]

theorem fourDigits?_hexPadded {n : Nat} (h : n < 0x10000) (rest : List Char) :
    fourDigits? (hexPadded 4 n ++ rest) = some (n, rest) := by
  have h0 := (hexValue?_hexDigit (show n / 4096 < 16 by omega)).1
  have h1 := (hexValue?_hexDigit (show n / 256 % 16 < 16 by omega)).1
  have h2 := (hexValue?_hexDigit (show n / 16 % 16 < 16 by omega)).1
  have h3 := (hexValue?_hexDigit (show n % 16 < 16 by omega)).1
  have hn : ((n / 4096 * 16 + n / 256 % 16) * 16 + n / 16 % 16) * 16 + n % 16 = n := by omega
  rw [hexPadded_four h]
  simp only [List.cons_append, List.nil_append, fourDigits?, h0, h1, h2, h3]
  exact congrArg (fun m => some (m, rest)) hn

theorem unicodeEscape?_single {n : Nat} (h : n < 0x10000) (hn : ¬(0xD800 ≤ n ∧ n < 0xE000))
    (rest : List Char) :
    ∃ h, unicodeEscape? (hexPadded 4 n ++ rest) = some (Char.ofNat n, ⟨rest, h⟩) := by
  have hfour := fourDigits?_hexPadded h rest
  rw [unicodeEscape?]
  split
  case h_1 hnone => simp [hfour] at hnone
  case h_2 m r hsome =>
    obtain ⟨rfl, rfl⟩ : n = m ∧ rest = r := by simpa [hfour] using hsome
    have h1 : (decide (0xD800 ≤ n) && decide (n < 0xE000)) = false := by
      simp; omega
    have h2 : (decide (0xD800 ≤ n) && decide (n < 0xDC00)) = false := by
      simp; omega
    simp only [h1, h2]
    exact ⟨fourDigits?_length hsome, rfl⟩

theorem unicodeEscape?_pair {n k : Nat} (hn : 0xD800 ≤ n ∧ n < 0xDC00) (hk : 0xDC00 ≤ k ∧ k < 0xE000)
    (rest : List Char) :
    ∃ h, unicodeEscape? (hexPadded 4 n ++ (unitEscape k ++ rest)) =
      some (Char.ofNat (0x10000 + (n - 0xD800) * 0x400 + (k - 0xDC00)), ⟨rest, h⟩) := by
  have hfour := fourDigits?_hexPadded (n := n) (by omega) (unitEscape k ++ rest)
  have hfour' := fourDigits?_hexPadded (n := k) (by omega) rest
  have h2 : (decide (0xD800 ≤ n) && decide (n < 0xDC00)) = true := by simp; omega
  have h3 : (decide (0xDC00 ≤ k) && decide (k < 0xE000)) = true := by simp; omega
  rw [unicodeEscape?]
  split
  case h_1 hnone => simp [hfour] at hnone
  case h_2 m r hsome =>
    obtain ⟨rfl, rfl⟩ : n = m ∧ unitEscape k ++ rest = r := by simpa [hfour] using hsome
    simp only [h2, if_true]
    split
    case h_1 t _ _ hr _ =>
      obtain rfl : t = hexPadded 4 k ++ rest := by simpa [unitEscape, eq_comm] using hr
      split
      case h_1 k' u hk' =>
        obtain ⟨rfl, rfl⟩ : k = k' ∧ rest = u := by simpa [hfour'] using hk'
        rw [if_pos h3]
        exact ⟨by simp [unitEscape]; omega, rfl⟩
      case h_2 hnone => simp [hfour'] at hnone
    case h_2 hr => exact absurd (proof_irrel_heq _ _) (hr (hexPadded 4 k ++ rest) hsome rfl)

theorem readsBody_simple {e d : Char} (he : simpleEscape? e = some d) {s cs rest : List Char}
    (h : ReadsBody s cs rest) : ReadsBody ('\\' :: e :: s) (d :: cs) rest := by
  obtain ⟨hlt, h⟩ := h
  have hu : e ≠ 'u' := by
    rintro rfl
    cases he
  refine ⟨Nat.lt_succ_of_lt (Nat.lt_succ_of_lt hlt), ?_⟩
  rw [stringBody]
  · simp only [he, h]
    rfl
  · exact fun hu' => absurd hu' hu

theorem readsBody_plain {c : Char} (hquote : c ≠ '"') (hslash : c ≠ '\\') (hc : 32 ≤ c.toNat)
    {s cs rest : List Char} (h : ReadsBody s cs rest) :
    ReadsBody (c :: s) (c :: cs) rest := by
  obtain ⟨hlt, h⟩ := h
  refine ⟨Nat.lt_succ_of_lt hlt, ?_⟩
  rw [stringBody]
  · have hplain : (decide (c.toNat < 32) || c == '\\') = false := by
      simp [hslash]; omega
    simp only [hplain, h]
    rfl
  · exact hquote
  · rintro _ rfl
    exact absurd rfl hslash
  · rintro _ _ rfl
    exact absurd rfl hslash

theorem readsBody_unicode {c : Char} {t s cs rest : List Char}
    (ht : ∃ h, unicodeEscape? t = some (c, ⟨s, h⟩)) (h : ReadsBody s cs rest) :
    ReadsBody ('\\' :: 'u' :: t) (c :: cs) rest := by
  obtain ⟨hlt, ht⟩ := ht
  obtain ⟨hlt', h⟩ := h
  refine ⟨Nat.lt_succ_of_lt (Nat.lt_succ_of_lt (Nat.lt_trans hlt' hlt)), ?_⟩
  rw [stringBody]
  simp only [ht, h]

theorem unicodeEscape?_unit {c : Char} (hc : c.toNat < 0x10000) (s : List Char) :
    ∃ h, unicodeEscape? (hexPadded 4 c.toNat ++ s) = some (c, ⟨s, h⟩) := by
  have hvalid : c.toNat < 0xD800 ∨ 0xDFFF < c.toNat ∧ c.toNat < 0x110000 := c.valid
  have h := unicodeEscape?_single hc (by omega) s
  rwa [Char.ofNat_toNat] at h

theorem unicodeEscape?_units {c : Char} (hc : ¬c.toNat < 0x10000) (s : List Char) :
    ∃ h, unicodeEscape? (hexPadded 4 (0xD800 + (c.toNat - 0x10000) / 0x400) ++
      (unitEscape (0xDC00 + (c.toNat - 0x10000) % 0x400) ++ s)) = some (c, ⟨s, h⟩) := by
  have hvalid : c.toNat < 0xD800 ∨ 0xDFFF < c.toNat ∧ c.toNat < 0x110000 := c.valid
  have h := unicodeEscape?_pair (n := 0xD800 + (c.toNat - 0x10000) / 0x400)
    (k := 0xDC00 + (c.toNat - 0x10000) % 0x400) (by omega) (by omega) s
  have hcode : 0x10000 + (0xD800 + (c.toNat - 0x10000) / 0x400 - 0xD800) * 0x400 +
      (0xDC00 + (c.toNat - 0x10000) % 0x400 - 0xDC00) = c.toNat := by omega
  rwa [hcode, Char.ofNat_toNat] at h

theorem readsBody_escapeChar (c : Char) {s cs rest : List Char} (h : ReadsBody s cs rest) :
    ReadsBody (escapeChar c ++ s) (c :: cs) rest := by
  have hcode : ∀ n, (c.toNat == n) = true → c = Char.ofNat n := by
    intro n hn
    rw [← beq_iff_eq.1 hn, Char.ofNat_toNat]
  fun_cases escapeChar c with
  | case1 hc | case2 _ hc | case3 _ _ hc | case4 _ _ _ hc | case5 _ _ _ _ hc =>
    obtain rfl := beq_iff_eq.1 hc
    exact readsBody_simple rfl h
  | case6 _ _ _ _ _ hc =>
    obtain rfl := hcode 12 hc
    exact readsBody_simple rfl h
  | case7 _ _ _ _ _ _ hc =>
    obtain rfl := hcode 8 hc
    exact readsBody_simple rfl h
  | case8 hquote hslash _ _ _ _ _ hc =>
    rw [Bool.and_eq_true, decide_eq_true_eq] at hc
    exact readsBody_plain (by simpa using hquote) (by simpa using hslash) hc.1 h
  | case9 _ _ _ _ _ _ _ _ hc =>
    exact readsBody_unicode (unicodeEscape?_unit hc s) h
  | case10 _ _ _ _ _ _ _ _ hc =>
    rw [List.append_assoc, unitEscape, List.cons_append, List.cons_append]
    exact readsBody_unicode (unicodeEscape?_units hc s) h

theorem readsBody_escaped (cs rest : List Char) :
    ReadsBody (cs.flatMap escapeChar ++ '"' :: rest) cs rest := by
  induction cs with
  | nil => exact ⟨Nat.lt_succ_self _, stringBody.eq_2 rest⟩
  | cons c cs ih =>
    rw [List.flatMap_cons, List.append_assoc]
    exact readsBody_escapeChar c ih

/-! ## Numbers -/

/-- What stands behind a number does not go on with it. -/
def EndsNumber (rest : List Char) : Prop :=
  ∀ c ∈ rest.head?, c.isDigit = false ∧ c ≠ '.' ∧ c ≠ 'e' ∧ c ≠ 'E'

/-- Only zero begins with a zero. -/
theorem integerText_eq_ok {n : Int} {text : String} :
    integerText n = .ok text ↔ isWritten n = true ∧ intText n = text := by
  cases h : isWritten n <;> simp [integerText, h]

theorem natDigits_zero_head {n : Nat} {ds : List Char} (h : natDigits n = '0' :: ds) : n = 0 := by
  induction n using Nat.strongRecOn generalizing ds with
  | ind n ih =>
    rw [natDigits] at h
    by_cases hn : 10 ≤ n
    · rw [Nat.toDigits_of_base_le (by decide) hn] at h
      cases hhead : Nat.toDigits 10 (n / 10) with
      | nil => exact absurd hhead Nat.toDigits_ne_nil
      | cons c cs =>
        rw [hhead] at h
        have := ih (n / 10) (by omega) ((List.cons.inj h).1 ▸ hhead)
        omega
    · have hall : ∀ m < 10, m.digitChar = '0' → m = 0 := by decide
      rw [Nat.toDigits_of_lt_base (by omega)] at h
      exact hall n (by omega) (List.cons.inj h).1

theorem takeWhile_natDigits (n : Nat) {rest : List Char} (h : EndsNumber rest) :
    (natDigits n ++ rest).takeWhile Char.isDigit = natDigits n := by
  rw [List.takeWhile_append_of_pos fun c hc => isDigit_of_mem_natDigits hc]
  cases rest with
  | nil => simp
  | cons c rest => rw [List.takeWhile_cons_of_neg (by simp [(h c rfl).1]), List.append_nil]

theorem numberTail_of_ends {rest : List Char} (h : EndsNumber rest) : numberTail rest = ([], rest) := by
  cases rest with
  | nil => rfl
  | cons c rest =>
    obtain ⟨-, hpoint, he, hE⟩ := h c rfl
    unfold numberTail
    split
    rename_i frac r heq
    split at heq
    · rename_i h1
      cases h1
      exact absurd rfl hpoint
    · cases heq
      simp [he, hE]

theorem number_natDigits {n : Nat} (hn : (natDigits n).length ≤ maxNumeralDigits) (negative : Bool)
    {rest : List Char} (h : EndsNumber rest) :
    number negative (natDigits n ++ rest) = .ok (.int (if negative then -(n : Int) else n), rest) := by
  have hvalue : ofDigitValues ((natDigits n).map Decimal.asciiDigit) = n := ofDigitValues_natDigits n
  have hempty : (natDigits n).isEmpty = false := by
    rw [List.isEmpty_eq_false_iff]
    exact Nat.toDigits_ne_nil
  unfold number
  extract_lets whole
  -- a leading zero stands alone, as in the text of zero
  have hwhole : whole = natDigits n := by
    unfold whole
    split
    case h_1 ds heq =>
      cases hdigits : natDigits n with
      | nil => exact absurd hdigits Nat.toDigits_ne_nil
      | cons c cs =>
        rw [hdigits] at heq
        obtain rfl := natDigits_zero_head ((List.cons.inj heq).1 ▸ hdigits)
        exact hdigits
    case h_2 => exact takeWhile_natDigits n h
  clear_value whole
  subst hwhole
  simp only [hempty, List.drop_left, numberTail_of_ends h, if_neg (Nat.not_lt.2 hn), Bool.false_eq_true,
    if_false, List.isEmpty_nil, if_true]
  exact congrArg (fun m : Nat => Except.ok (Value.int (if negative then -(m : Int) else m), rest)) hvalue

theorem ne_of_isDigit {c d : Char} (hc : c.isDigit = true) (hd : d.isDigit = false) : d ≠ c := by
  rintro rfl
  rw [hc] at hd
  cases hd

/-- No word of JSON begins like a number. -/
theorem find?_words_of_digit {c : Char} (hc : c.isDigit = true) (s : List Char) :
    words.find? (fun w => w.1.toList.isPrefixOf (c :: s)) = none := by
  have hne : ∀ d : Char, d.isDigit = false → (d == c) = false := fun d hd =>
    beq_eq_false_iff_ne.2 (ne_of_isDigit hc hd)
  simp [words, List.isPrefixOf, hne 'n' (by decide), hne 't' (by decide), hne 'f' (by decide),
    hne 'N' (by decide), hne 'I' (by decide), hne '-' (by decide)]

theorem find?_words_of_minus {c : Char} (hc : c.isDigit = true) (s : List Char) :
    words.find? (fun w => w.1.toList.isPrefixOf ('-' :: c :: s)) = none := by
  have hne : ('I' == c) = false := beq_eq_false_iff_ne.2 (ne_of_isDigit hc (by decide))
  simp [words, List.isPrefixOf, hne]

theorem natDigits_eq_cons (n : Nat) : ∃ c cs, natDigits n = c :: cs ∧ c.isDigit = true := by
  cases h : natDigits n with
  | nil => exact absurd h Nat.toDigits_ne_nil
  | cons c cs => exact ⟨c, cs, rfl, isDigit_of_mem_natDigits (h ▸ List.mem_cons_self)⟩

/-- The text of an integer begins with a digit or with the sign. -/
theorem intDigits_eq_cons (n : Int) : ∃ c cs, intDigits n = c :: cs ∧ (c.isDigit = true ∨ c = '-') := by
  cases n with
  | ofNat m =>
    obtain ⟨c, cs, hm, hc⟩ := natDigits_eq_cons m
    exact ⟨c, cs, hm, .inl hc⟩
  | negSucc m => exact ⟨'-', natDigits (m + 1), rfl, .inr rfl⟩

theorem atom_intDigits {n : Int} (hn : numeralLength n ≤ maxNumeralDigits) {rest : List Char}
    (h : EndsNumber rest) : atom (intDigits n ++ rest) = .ok (.int n, rest) := by
  cases n with
  | ofNat m =>
    obtain ⟨c, cs, hm, hc⟩ := natDigits_eq_cons m
    have hnumber := number_natDigits hn false h
    change atom (natDigits m ++ rest) = _
    rw [atom, hm, List.cons_append, find?_words_of_digit hc, ← List.cons_append, ← hm]
    · exact hnumber
    · intro t ht
      rw [hm] at ht
      obtain rfl := (List.cons.inj ht).1
      cases hc
  | negSucc m =>
    obtain ⟨c, cs, hm, hc⟩ := natDigits_eq_cons (m + 1)
    have hnumber := number_natDigits hn true h
    change atom ('-' :: (natDigits (m + 1) ++ rest)) = _
    rw [atom, hm, List.cons_append, find?_words_of_minus hc, ← List.cons_append, ← hm]
    exact hnumber

end GateRollout.Json
