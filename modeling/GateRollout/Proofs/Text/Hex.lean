import GateRollout.Proofs.Text.Numeral
import GateRollout.Text.Hex
import GateRollout.Text.Lower

/-!
# Hexadecimal texts are read back

The text of bytes in hexadecimal digits of either case, brought to lower case, is read as the bytes.
-/

namespace GateRollout.Text

/-! ## The texts of bytes -/

/-- A hexadecimal digit of a number below sixteen, in lower or in upper case. -/
def IsHexDigitOf (n : Nat) (c : Char) : Prop := c = n.digitChar ∨ c = n.digitChar.toUpper

/-- The texts of bytes, two digits a byte. -/
inductive HexText : List UInt8 → List Char → Prop
  | nil : HexText [] []
  | cons {b : UInt8} {high low : Char} {bs : List UInt8} {text : List Char} :
      IsHexDigitOf (b.toNat / 16) high → IsHexDigitOf (b.toNat % 16) low → HexText bs text →
      HexText (b :: bs) (high :: low :: text)

/-- The two digits of a byte stand for numbers below sixteen. -/
theorem nibbles_lt (b : UInt8) : b.toNat / 16 < 16 ∧ b.toNat % 16 < 16 := by
  have := b.toNat_lt
  omega

theorem IsHexDigitOf.graphic {n : Nat} (hn : n < 16) {c : Char} (h : IsHexDigitOf n c) :
    33 ≤ c.toNat ∧ c.toNat ≤ 126 := by
  have hall : ∀ n < 16, (33 ≤ n.digitChar.toNat ∧ n.digitChar.toNat ≤ 126) ∧
      33 ≤ n.digitChar.toUpper.toNat ∧ n.digitChar.toUpper.toNat ≤ 126 := by decide
  rcases h with rfl | rfl
  · exact (hall n hn).1
  · exact (hall n hn).2

theorem IsHexDigitOf.toLower {n : Nat} (hn : n < 16) {c : Char} (h : IsHexDigitOf n c) :
    c.toLower = hexDigit n := by
  have hall : ∀ n < 16, n.digitChar.toLower = hexDigit n ∧ n.digitChar.toUpper.toLower = hexDigit n := by
    decide
  rcases h with rfl | rfl
  · exact (hall n hn).1
  · exact (hall n hn).2

theorem HexText.graphic {bs : List UInt8} {text : List Char} (h : HexText bs text) :
    ∀ c ∈ text, 33 ≤ c.toNat ∧ c.toNat ≤ 126 := by
  induction h with
  | nil => nofun
  | @cons b _ _ _ _ hhigh hlow _ ih =>
    exact List.forall_mem_cons.2 ⟨hhigh.graphic (nibbles_lt b).1,
      List.forall_mem_cons.2 ⟨hlow.graphic (nibbles_lt b).2, ih⟩⟩

/-- In lower case, bytes have one text. -/
theorem HexText.map_toLower {bs : List UInt8} {text : List Char} (h : HexText bs text) :
    text.map Char.toLower = hexDigits bs := by
  induction h with
  | nil => rfl
  | @cons b _ _ _ _ hhigh hlow _ ih =>
    rw [List.map_cons, List.map_cons, hhigh.toLower (nibbles_lt b).1, hlow.toLower (nibbles_lt b).2, ih]
    rfl

/-! ## Lower case -/

/-- Within ASCII every character has a lower-case form of its own. -/
theorem lowerAfter_of_ascii {s : List Char} (h : ∀ c ∈ s, c.toNat < 128) (before : List Char) :
    lowerAfter before s = s.map Char.toLower := by
  induction s generalizing before with
  | nil => rfl
  | cons c rest ih =>
    rw [List.forall_mem_cons] at h
    have hdotted : ¬(c == 'İ') = true := by
      rw [beq_iff_eq]
      rintro rfl
      exact absurd h.1 (by decide)
    have hsigma : ¬(c == 'Σ') = true := by
      rw [beq_iff_eq]
      rintro rfl
      exact absurd h.1 (by decide)
    have hchar : lowerChar c = c.toLower := if_pos h.1
    rw [lowerAfter, ih h.2, if_neg hdotted, if_neg hsigma, hchar]
    rfl

/-! ## Reading -/

theorem hexValue?_hexDigit {n : Nat} (h : n < 16) :
    hexValue? (hexDigit n) = some n ∧ isAsciiBlank (hexDigit n) = false := by
  have hall : ∀ n < 16, hexValue? (hexDigit n) = some n ∧ isAsciiBlank (hexDigit n) = false := by decide
  exact hall n h

theorem lt_of_hexValue? {c : Char} {n : Nat} (h : hexValue? c = some n) : n < 16 := by
  have hcode : ∀ low high : Char, low ≤ c ∧ c ≤ high → low.toNat ≤ c.toNat ∧ c.toNat ≤ high.toNat :=
    fun _ _ h => h
  unfold hexValue? at h
  grind

theorem readHexFrom_blank {c : Char} (h : isAsciiBlank c = true) (pos : Nat) (rest : List Char) :
    readHexFrom pos (c :: rest) = readHexFrom (pos + 1) rest := by
  cases rest with
  | nil => simp [readHexFrom, h]
  | cons d rest => rw [readHexFrom, if_pos h]

theorem readHexFrom_byte {b : UInt8} {pos : Nat} :
    readHexFrom pos (hexDigit (b.toNat / 16) :: hexDigit (b.toNat % 16) :: rest) =
      (readHexFrom (pos + 2) rest).map (b :: ·) := by
  obtain ⟨hhigh, hblank⟩ := hexValue?_hexDigit (nibbles_lt b).1
  have hlow := (hexValue?_hexDigit (nibbles_lt b).2).1
  have hbyte : UInt8.ofNat (16 * (b.toNat / 16) + b.toNat % 16) = b := by
    rw [Nat.div_add_mod, UInt8.ofNat_toNat]
  rw [readHexFrom, if_neg (by simp [hblank]), hhigh, hlow]
  simp only [hbyte]

/-- What can be read begins with a blank or with a byte. -/
theorem readHexFrom_cases {c : Char} {pos : Nat} (h : readHexFrom pos (c :: rest) = .ok bs) :
    (isAsciiBlank c = true ∧ readHexFrom (pos + 1) rest = .ok bs) ∨
      ∃ d rest' b bs', rest = d :: rest' ∧ bs = b :: bs' ∧ hexValue? c = some (b.toNat / 16) ∧
        hexValue? d = some (b.toNat % 16) ∧ readHexFrom (pos + 2) rest' = .ok bs' := by
  by_cases hblank : isAsciiBlank c = true
  · exact .inl ⟨hblank, readHexFrom_blank hblank pos rest ▸ h⟩
  · cases rest with
    | nil => simp [readHexFrom, hblank] at h
    | cons d rest =>
      rw [readHexFrom, if_neg hblank] at h
      split at h
      · cases h
      · cases h
      · rename_i high low hhigh hlow
        cases hrest : readHexFrom (pos + 2) rest with
        | error p => simp [hrest, Except.map] at h
        | ok bs' =>
          rw [hrest] at h
          obtain rfl := Except.ok.inj h
          have := lt_of_hexValue? hhigh
          have := lt_of_hexValue? hlow
          have hbyte : (UInt8.ofNat (16 * high + low)).toNat = 16 * high + low := by
            rw [UInt8.toNat_ofNat']
            omega
          refine .inr ⟨d, rest, _, bs', rfl, rfl, ?_, ?_, hrest⟩
          · rw [hhigh, hbyte]
            exact congrArg some (by omega)
          · rw [hlow, hbyte]
            exact congrArg some (by omega)

theorem le_of_hexValue? {c : Char} {n : Nat} (h : hexValue? c = some n) : c.toNat ≤ 'f'.toNat := by
  have hcode : ∀ high : Char, c ≤ high → c.toNat ≤ high.toNat := fun _ h => h
  unfold hexValue? at h
  grind

theorem le_of_isAsciiBlank {c : Char} (h : isAsciiBlank c = true) : c.toNat ≤ ' '.toNat := by
  simp only [isAsciiBlank, Bool.or_eq_true, beq_iff_eq, Bool.and_eq_true, decide_eq_true_eq] at h
  rcases h with rfl | ⟨-, h⟩
  · exact Nat.le_refl _
  · exact Nat.le_trans h (by decide)

/-- Only blanks and digits are read. -/
theorem le_of_readHexFrom {pos : Nat} (h : readHexFrom pos text = .ok bs) :
    ∀ c ∈ text, c.toNat ≤ 'f'.toNat := by
  have hblanks : ∀ {c : Char}, isAsciiBlank c = true → c.toNat ≤ 'f'.toNat := fun hc =>
    Nat.le_trans (le_of_isAsciiBlank hc) (by decide)
  fun_induction readHexFrom pos text generalizing bs with
  | case1 => nofun
  | case2 pos c hblank => exact List.forall_mem_singleton.2 (hblanks hblank)
  | case3 => cases h
  | case4 pos c d rest hblank ih => exact List.forall_mem_cons.2 ⟨hblanks hblank, ih h⟩
  | case5 => cases h
  | case6 => cases h
  | case7 pos c d rest _ high low hlow hhigh ih =>
    cases hrest : readHexFrom (pos + 2) rest with
    | error p => simp [hrest, Except.map] at h
    | ok bs' =>
      exact List.forall_mem_cons.2 ⟨le_of_hexValue? hhigh,
        List.forall_mem_cons.2 ⟨le_of_hexValue? hlow, ih hrest⟩⟩

theorem readHexFrom_hexDigits (bs : List UInt8) (pos : Nat) : readHexFrom pos (hexDigits bs) = .ok bs := by
  induction bs generalizing pos with
  | nil => rfl
  | cons b bs ih =>
    change readHexFrom pos (hexDigit (b.toNat / 16) :: hexDigit (b.toNat % 16) :: hexDigits bs) = _
    rw [readHexFrom_byte, ih]
    rfl

theorem ascii_of_mem_hexDigits {bs : List UInt8} {c : Char} (h : c ∈ hexDigits bs) : c.toNat < 128 := by
  have hall : ∀ n < 16, (hexDigit n).toNat < 128 := by decide
  obtain ⟨b, -, hc⟩ := List.mem_flatMap.1 h
  simp only [byteDigits, List.mem_cons, List.not_mem_nil, or_false] at hc
  rcases hc with rfl | rfl
  · exact hall _ (nibbles_lt b).1
  · exact hall _ (nibbles_lt b).2

theorem readHex_hexDigits (bs : List UInt8) : readHex (hexDigits bs) = .ok bs := by
  have hfind : (hexDigits bs).findIdx? (·.toNat ≥ 128) = none := by
    rw [List.findIdx?_eq_none_iff]
    intro c hc
    simpa using ascii_of_mem_hexDigits hc
  rw [readHex, hfind]
  exact readHexFrom_hexDigits bs 0

end GateRollout.Text
