import GateRollout.Text.Utf8
import Mathlib.Tactic.SplitIfs

/-!
# Encoded texts are decoded

The UTF-8 bytes of a text are decoded to the text.  A character of more than one byte is a lead byte, whose
shape says how many bytes follow and where the first of them lies, and that many bytes that carry six bits
each.
-/

namespace GateRollout.Text

/-! ## The bytes of a text -/

theorem toList_loop (bs : ByteArray) (i : Nat) (done : List UInt8) :
    ByteArray.toList.loop bs i done = done.reverse ++ bs.data.toList.drop i := by
  fun_induction ByteArray.toList.loop bs i done with
  | case1 i done h ih =>
    have hi : i < bs.data.toList.length := by simpa using h
    rw [ih, List.drop_eq_getElem_cons hi]
    simp [ByteArray.get!, h]
  | case2 i done h =>
    rw [List.drop_eq_nil_of_le (by simpa using Nat.le_of_not_lt h), List.append_nil]

theorem toUTF8_toList (s : String) : s.toUTF8.toList = s.toList.flatMap String.utf8EncodeChar := by
  have hbytes : s.toUTF8 = (s.toList.flatMap String.utf8EncodeChar).toByteArray := by
    conv => lhs; rw [← String.ofList_toList (s := s)]
    rfl
  rw [hbytes, ByteArray.toList, toList_loop, List.toList_data_toByteArray]
  rfl

/-- The bytes of a text in front of another are in front of those of the other. -/
theorem toUTF8_append (s t : String) :
    (s ++ t).toUTF8.toList = s.toUTF8.toList ++ t.toUTF8.toList := by
  rw [toUTF8_toList, toUTF8_toList, toUTF8_toList, String.toList_append, List.flatMap_append]

theorem leadShape?_two {n : Nat} (h : 2 ≤ n ∧ n < 32) :
    leadShape? (UInt8.ofNat (n + 0xC0)) = some (1, 0x80, 0xBF) := by
  have hall : ∀ n < 32, 2 ≤ n → leadShape? (UInt8.ofNat (n + 0xC0)) = some (1, 0x80, 0xBF) := by decide
  exact hall n h.2 h.1

theorem leadShape?_three {n : Nat} (h : n < 16) :
    leadShape? (UInt8.ofNat (n + 0xE0)) =
      some (2, if n = 0 then 0xA0 else 0x80, if n = 13 then 0x9F else 0xBF) := by
  have hall : ∀ n < 16, leadShape? (UInt8.ofNat (n + 0xE0)) =
      some (2, if n = 0 then 0xA0 else 0x80, if n = 13 then 0x9F else 0xBF) := by decide
  exact hall n h

theorem leadShape?_four {n : Nat} (h : n < 5) :
    leadShape? (UInt8.ofNat (n + 0xF0)) =
      some (3, if n = 0 then 0x90 else 0x80, if n = 4 then 0x8F else 0xBF) := by
  have hall : ∀ n < 5, leadShape? (UInt8.ofNat (n + 0xF0)) =
      some (3, if n = 0 then 0x90 else 0x80, if n = 4 then 0x8F else 0xBF) := by decide
  exact hall n h

theorem toNat_ofNat_of_lt {n : Nat} (h : n < 256) : (UInt8.ofNat n).toNat = n := by
  rw [UInt8.toNat_ofNat']
  exact Nat.mod_eq_of_lt h

/-- A byte in its range carries six bits. -/
theorem continuation_cons {low high n : Nat} (h : low ≤ n + 0x80 ∧ n + 0x80 ≤ high) (hn : n < 64)
    (count acc : Nat)
    (rest : List UInt8) {found code : Nat}
    (hrest : continuation 0x80 0xBF count (64 * acc + n) rest = (found, code)) :
    continuation low high (count + 1) acc (UInt8.ofNat (n + 0x80) :: rest) = (found + 1, code) := by
  have hbits : (n + 0x80) % 64 = n := by omega
  rw [continuation, toNat_ofNat_of_lt (by omega), hbits, hrest, if_pos (by simpa using h)]

theorem decodeFrom_skip {bytes rest : List UInt8} {cs : List Char} (h : ∀ pos, decodeFrom pos 0 rest = .ok cs)
    (pos : Nat) : decodeFrom pos bytes.length (bytes ++ rest) = .ok cs := by
  induction bytes generalizing pos with
  | nil => exact h pos
  | cons b bytes ih =>
    rw [List.length_cons, List.cons_append, decodeFrom]
    exact ih (pos + 1)

/-- A lead byte and the bytes that follow it are decoded together. -/
theorem decodeFrom_lead {lead : UInt8} (bytes : List UInt8)
    {rest : List UInt8} {low high code : Nat} {cs : List Char}
    (hlead : 0x80 ≤ lead.toNat) (hshape : leadShape? lead = some (bytes.length, low, high))
    (hcode : continuation low high bytes.length
      (if bytes.length == 1 then lead.toNat % 32 else if bytes.length == 2 then lead.toNat % 16
        else lead.toNat % 8) (bytes ++ rest) = (bytes.length, code))
    (h : ∀ pos, decodeFrom pos 0 rest = .ok cs) (pos : Nat) :
    decodeFrom pos 0 (lead :: (bytes ++ rest)) = .ok (Char.ofNat code :: cs) := by
  rw [decodeFrom, if_neg (Nat.not_lt.2 hlead), hshape]
  simp only [hcode, beq_self_eq_true, if_true, decodeFrom_skip h]
  rfl

variable {v : Nat} {rest : List UInt8} {cs : List Char}

theorem decodeFrom_two (hv : 0x80 ≤ v ∧ v < 0x800) (h : ∀ pos, decodeFrom pos 0 rest = .ok cs) (pos : Nat) :
    decodeFrom pos 0 ([UInt8.ofNat (v / 64 % 32 + 0xC0), UInt8.ofNat (v % 64 + 0x80)] ++ rest) =
      .ok (Char.ofNat v :: cs) := by
  have hlead := toNat_ofNat_of_lt (n := v / 64 % 32 + 0xC0) (by omega)
  refine decodeFrom_lead [_] (by omega) (leadShape?_two (by omega)) ?_ h pos
  rw [hlead]
  refine continuation_cons (by omega) (by omega) _ _ _ ?_
  have hcode : 64 * ((v / 64 % 32 + 0xC0) % 32) + v % 64 = v := by omega
  exact congrArg (Prod.mk 0) hcode

theorem decodeFrom_three (hv : 0x800 ≤ v ∧ v < 0x10000) (hvalid : v < 0xD800 ∨ 0xDFFF < v)
    (h : ∀ pos, decodeFrom pos 0 rest = .ok cs) (pos : Nat) :
    decodeFrom pos 0 ([UInt8.ofNat (v / 4096 % 16 + 0xE0), UInt8.ofNat (v / 64 % 64 + 0x80),
      UInt8.ofNat (v % 64 + 0x80)] ++ rest) = .ok (Char.ofNat v :: cs) := by
  have hlead := toNat_ofNat_of_lt (n := v / 4096 % 16 + 0xE0) (by omega)
  refine decodeFrom_lead [_, _] (by omega) (leadShape?_three (by omega)) ?_ h pos
  rw [hlead]
  refine continuation_cons ?_ (by omega) _ _ _ (continuation_cons (by omega) (by omega) _ _ _ ?_)
  · constructor <;> split <;> omega
  · have hcode : 64 * (64 * ((v / 4096 % 16 + 0xE0) % 16) + v / 64 % 64) + v % 64 = v := by omega
    exact congrArg (Prod.mk 0) hcode

theorem decodeFrom_four (hv : 0x10000 ≤ v ∧ v < 0x110000) (h : ∀ pos, decodeFrom pos 0 rest = .ok cs)
    (pos : Nat) :
    decodeFrom pos 0 ([UInt8.ofNat (v / 262144 % 8 + 0xF0), UInt8.ofNat (v / 4096 % 64 + 0x80),
      UInt8.ofNat (v / 64 % 64 + 0x80), UInt8.ofNat (v % 64 + 0x80)] ++ rest) = .ok (Char.ofNat v :: cs) := by
  have hlead := toNat_ofNat_of_lt (n := v / 262144 % 8 + 0xF0) (by omega)
  refine decodeFrom_lead [_, _, _] (by omega) (leadShape?_four (by omega)) ?_ h pos
  rw [hlead]
  refine continuation_cons ?_ (by omega) _ _ _ (continuation_cons (by omega) (by omega) _ _ _
    (continuation_cons (by omega) (by omega) _ _ _ ?_))
  · constructor <;> split <;> omega
  · have hcode :
        64 * (64 * (64 * ((v / 262144 % 8 + 0xF0) % 8) + v / 4096 % 64) + v / 64 % 64) + v % 64 = v := by
      omega
    exact congrArg (Prod.mk 0) hcode

theorem decodeFrom_char (c : Char) (h : ∀ pos, decodeFrom pos 0 rest = .ok cs) (pos : Nat) :
    decodeFrom pos 0 (String.utf8EncodeChar c ++ rest) = .ok (c :: cs) := by
  have hvalid : c.val.toNat < 0xD800 ∨ 0xDFFF < c.val.toNat ∧ c.val.toNat < 0x110000 := c.valid
  have hchar : Char.ofNat c.val.toNat = c := Char.ofNat_toNat c
  unfold String.utf8EncodeChar
  generalize c.val.toNat = v at hvalid hchar
  obtain rfl := hchar
  dsimp only
  split_ifs with h₁ h₂ h₃
  · have hbyte := toNat_ofNat_of_lt (n := v) (by omega)
    rw [List.singleton_append, decodeFrom, hbyte, if_pos (by omega), h]
    rfl
  · exact decodeFrom_two (by omega) h pos
  · exact decodeFrom_three (by omega) (by omega) h pos
  · exact decodeFrom_four (by omega) h pos

/-- The bytes of a text are decoded to the text. -/
theorem decodeUtf8_toUTF8 (s : String) : decodeUtf8 s.toUTF8.toList = .ok s := by
  have hchars : ∀ (cs : List Char) (pos : Nat),
      decodeFrom pos 0 (cs.flatMap String.utf8EncodeChar) = .ok cs := by
    intro cs
    induction cs with
    | nil => exact fun _ => rfl
    | cons c cs ih => exact fun pos => decodeFrom_char c ih pos
  rw [decodeUtf8, toUTF8_toList, hchars]
  exact congrArg Except.ok String.ofList_toList

end GateRollout.Text
