import GateRollout.Proofs.Text.Lower
import GateRollout.Proofs.Schedule.Spelling
import GateRollout.Text.Replace

/-!
# Hexadecimal text with marks

Gate states may be given as hexadecimal text, in either case, with blanks and marks in it.  Reading deletes
every mark before it looks at digits, so that a mark between the two digits of a byte is as good as one in
front of them.  A grammar of such texts says what is read, and with marks kept out of bytes what is not
meant to be.
-/

namespace GateRollout.Document

open Text

/-- A mark in front of hexadecimal digits: a zero, and an `x` of either case. -/
inductive IsHexMark : List Char → Prop
  | lower : IsHexMark ['0', 'x']
  | upper : IsHexMark ['0', 'X']

/-- Marks, one after the other. -/
inductive HexMarks : List Char → Prop
  | nil : HexMarks []
  | cons {mark text : List Char} : IsHexMark mark → HexMarks text → HexMarks (mark ++ text)

/-- Texts of bytes, two digits a byte, with blanks and marks in front of bytes and behind the last one.
Where `split` is so, marks may also stand between the two digits of a byte. -/
inductive MarkedHex (split : Prop) : List Char → List UInt8 → Prop
  | nil : MarkedHex split [] []
  | blank {c : Char} {text : List Char} {bs : List UInt8} : isAsciiBlank c = true →
      MarkedHex split text bs → MarkedHex split (c :: text) bs
  | mark {mark text : List Char} {bs : List UInt8} : IsHexMark mark →
      MarkedHex split text bs → MarkedHex split (mark ++ text) bs
  | byte {b : UInt8} {high low : Char} {marks text : List Char} {bs : List UInt8} :
      IsHexDigitOf (b.toNat / 16) high → HexMarks marks → (marks ≠ [] → split) →
      IsHexDigitOf (b.toNat % 16) low → MarkedHex split text bs →
      MarkedHex split (high :: (marks ++ low :: text)) (b :: bs)

variable {split : Prop} {text rest marks : List Char} {bs : List UInt8}

/-! ## Characters -/

theorem toLower_of_isAsciiBlank {c : Char} (h : isAsciiBlank c = true) :
    c.toNat < 128 ∧ c.toLower = c ∧ c ≠ '0' ∧ c ≠ 'x' := by
  have hascii : c.toNat < 128 := by
    simp only [isAsciiBlank, Bool.or_eq_true, beq_iff_eq, Bool.and_eq_true, decide_eq_true_eq] at h
    rcases h with rfl | ⟨-, h⟩
    · decide
    · omega
  have hall : ∀ n < 128, isAsciiBlank (Char.ofNat n) = true → (Char.ofNat n).toLower = Char.ofNat n ∧
      Char.ofNat n ≠ '0' ∧ Char.ofNat n ≠ 'x' := by decide
  exact ⟨hascii, forall_ascii (P := fun c => isAsciiBlank c = true → c.toLower = c ∧ c ≠ '0' ∧ c ≠ 'x')
    hall hascii h⟩

theorem isAsciiBlank_of_toLower {c : Char} (hc : c.toNat < 128) (h : isAsciiBlank c.toLower = true) :
    isAsciiBlank c = true := by
  have hall : ∀ n < 128, isAsciiBlank (Char.ofNat n).toLower = true → isAsciiBlank (Char.ofNat n) = true := by
    decide
  exact forall_ascii (P := fun c => isAsciiBlank c.toLower = true → isAsciiBlank c = true) hall hc h

theorem isHexDigitOf_of_hexValue? {c : Char} (hc : c.toNat < 128) {n : Nat}
    (h : hexValue? c.toLower = some n) : IsHexDigitOf n c := by
  have hall : ∀ k < 128, ∀ n ∈ hexValue? (Char.ofNat k).toLower,
      Char.ofNat k = n.digitChar ∨ Char.ofNat k = n.digitChar.toUpper := by decide
  exact forall_ascii (P := fun c => ∀ n ∈ hexValue? c.toLower, IsHexDigitOf n c) hall hc n h

theorem hexDigit_ne_x {n : Nat} (h : n < 16) : hexDigit n ≠ 'x' := by
  have hall : ∀ n < 16, hexDigit n ≠ 'x' := by decide
  exact hall n h

/-- Two characters that are a mark in lower case are one. -/
theorem isHexMark_of_toLower {c d : Char} (hc : c.toNat < 128) (hd : d.toNat < 128)
    (hzero : c.toLower = '0') (hx : d.toLower = 'x') : IsHexMark [c, d] := by
  have hzeros : ∀ n < 128, (Char.ofNat n).toLower = '0' → Char.ofNat n = '0' := by decide
  have hxs : ∀ n < 128, (Char.ofNat n).toLower = 'x' → Char.ofNat n = 'x' ∨ Char.ofNat n = 'X' := by
    decide
  obtain rfl := forall_ascii (P := fun c => c.toLower = '0' → c = '0') hzeros hc hzero
  rcases forall_ascii (P := fun c => c.toLower = 'x' → c = 'x' ∨ c = 'X') hxs hd hx with rfl | rfl
  · exact .lower
  · exact .upper

/-! ## Dropping marks -/

/-- To drop the marks is to replace each of them by nothing, from left to right. -/
theorem dropHexMarks_eq_replaceFrom (s : List Char) : dropHexMarks s = replaceFrom ['0', 'x'] [] 0 s := by
  fun_induction Document.dropHexMarks s with
  | case1 rest ih => exact ih
  | case2 c rest hmark ih =>
    have hprefix : ['0', 'x'].isPrefixOf (c :: rest) = false := by
      rw [Bool.eq_false_iff, ne_eq, List.isPrefixOf_iff_prefix]
      rintro ⟨tail, htail⟩
      obtain ⟨rfl, rfl⟩ := List.cons.inj htail
      exact hmark tail rfl rfl
    rw [replaceFrom, hprefix, ih]
    rfl
  | case3 => rfl

theorem dropHexMarks_cons {c : Char} (h : rest.head? ≠ some 'x') :
    dropHexMarks (c :: rest) = c :: dropHexMarks rest := by
  rw [dropHexMarks]
  rintro tail rfl rfl
  exact h rfl

theorem IsHexMark.dropHexMarks {mark : List Char} (h : IsHexMark mark) (text : List Char) :
    dropHexMarks ((mark ++ text).map Char.toLower) = dropHexMarks (text.map Char.toLower) := by
  cases h <;> rfl

theorem HexMarks.dropHexMarks (h : HexMarks marks) (text : List Char) :
    dropHexMarks ((marks ++ text).map Char.toLower) = dropHexMarks (text.map Char.toLower) := by
  induction h with
  | nil => rfl
  | cons hmark _ ih => rw [List.append_assoc, hmark.dropHexMarks, ih]

/-- In a text without its marks, the first character is one that marks stand in front of. -/
theorem dropHexMarks_cases (hascii : ∀ c ∈ text, c.toNat < 128) :
    (HexMarks text ∧ dropHexMarks (text.map Char.toLower) = []) ∨
      ∃ marks c rest, HexMarks marks ∧ text = marks ++ c :: rest ∧
        dropHexMarks (text.map Char.toLower) = c.toLower :: dropHexMarks (rest.map Char.toLower) := by
  generalize hlower : text.map Char.toLower = lowered
  fun_induction Document.dropHexMarks lowered generalizing text with
  | case1 lowered ih =>
    obtain ⟨c, text, rfl, hc, htext⟩ := List.map_eq_cons_iff.1 hlower
    obtain ⟨d, text, rfl, hd, rfl⟩ := List.map_eq_cons_iff.1 htext
    simp only [List.forall_mem_cons] at hascii
    obtain ⟨hcascii, hdascii, hascii⟩ := hascii
    have hmark := isHexMark_of_toLower hcascii hdascii hc hd
    rcases ih hascii rfl with ⟨hmarks, hempty⟩ | ⟨marks, e, rest, hmarks, rfl, hrest⟩
    · exact .inl ⟨.cons hmark hmarks, hempty⟩
    · exact .inr ⟨_, e, rest, .cons hmark hmarks, by simp, hrest⟩
  | case2 c lowered _ ih =>
    obtain ⟨c, text, rfl, rfl, rfl⟩ := List.map_eq_cons_iff.1 hlower
    exact .inr ⟨[], c, text, .nil, rfl, rfl⟩
  | case3 =>
    obtain rfl := List.map_eq_nil_iff.1 hlower
    exact .inl ⟨.nil, rfl⟩

/-! ## Reading -/

theorem HexMarks.markedHex (h : HexMarks marks) (htext : MarkedHex split text bs) :
    MarkedHex split (marks ++ text) bs := by
  induction h with
  | nil => exact htext
  | cons hmark _ ih =>
    rw [List.append_assoc]
    exact .mark hmark ih

/-- What is read once the marks are dropped from a text is spelled by the text.  The induction is on the
length, as marks, a blank or a byte are taken off at once. -/
theorem markedHex_of_readHexFrom {pos : Nat} (hascii : ∀ c ∈ text, c.toNat < 128)
    (h : readHexFrom pos (dropHexMarks (text.map Char.toLower)) = .ok bs) :
    MarkedHex True text bs := by
  induction hlength : text.length using Nat.strongRecOn generalizing text bs pos with
  | ind length ih =>
    rcases dropHexMarks_cases hascii with ⟨hmarks, hempty⟩ | ⟨marks, c, rest, hmarks, rfl, hdrop⟩
    · rw [hempty] at h
      obtain rfl := Except.ok.inj h
      have htext : MarkedHex True (text ++ []) [] := hmarks.markedHex .nil
      rwa [List.append_nil] at htext
    · refine hmarks.markedHex ?_
      simp only [List.length_append, List.length_cons] at hlength
      rw [List.forall_mem_append, List.forall_mem_cons] at hascii
      obtain ⟨-, hc, hrest⟩ := hascii
      rw [hdrop] at h
      rcases readHexFrom_cases h with ⟨hblank, h⟩ | ⟨d, lowered, b, bs, hcons, rfl, hhigh, hlow, h⟩
      · exact .blank (isAsciiBlank_of_toLower hc hblank) (ih _ (by omega) hrest h rfl)
      · rcases dropHexMarks_cases hrest with ⟨-, hempty⟩ | ⟨inner, e, rest', hinner, rfl, hdrop'⟩
        · rw [hempty] at hcons
          cases hcons
        · rw [hdrop', List.cons.injEq] at hcons
          obtain ⟨rfl, rfl⟩ := hcons
          simp only [List.length_append, List.length_cons] at hlength
          rw [List.forall_mem_append, List.forall_mem_cons] at hrest
          obtain ⟨-, he, hrest'⟩ := hrest
          exact .byte (isHexDigitOf_of_hexValue? hc hhigh) hinner (fun _ => trivial)
            (isHexDigitOf_of_hexValue? he hlow) (ih _ (by omega) hrest' h rfl)

/-! ## Texts that are spelled -/

theorem head?_ne_x_of_isHexDigitOf {n : Nat} (hn : n < 16) {c : Char} (h : IsHexDigitOf n c)
    (rest : List Char) : ((c :: rest).map Char.toLower).head? ≠ some 'x' := by
  rw [List.map_cons, List.head?_cons, h.toLower hn, Ne, Option.some.injEq]
  exact hexDigit_ne_x hn

theorem MarkedHex.head?_ne_x (h : MarkedHex split text bs) : (text.map Char.toLower).head? ≠ some 'x' := by
  cases h with
  | nil => nofun
  | blank hblank _ =>
    obtain ⟨-, hlower, -, hx⟩ := toLower_of_isAsciiBlank hblank
    simpa [hlower] using hx
  | mark hmark _ => cases hmark <;> exact (by decide : some '0' ≠ some 'x')
  | byte hhigh _ _ _ _ => exact head?_ne_x_of_isHexDigitOf (nibbles_lt _).1 hhigh _

theorem HexMarks.head?_ne_x (h : HexMarks marks) (hrest : (rest.map Char.toLower).head? ≠ some 'x') :
    ((marks ++ rest).map Char.toLower).head? ≠ some 'x' := by
  cases h with
  | nil => exact hrest
  | cons hmark _ => cases hmark <;> exact (by decide : some '0' ≠ some 'x')

/-- A text that spells bytes is read as these bytes once its marks are dropped. -/
theorem MarkedHex.readHexFrom (h : MarkedHex split text bs) (pos : Nat) :
    readHexFrom pos (Document.dropHexMarks (text.map Char.toLower)) = .ok bs := by
  induction h generalizing pos with
  | nil => rfl
  | blank hblank htext ih =>
    obtain ⟨-, hlower, -, -⟩ := toLower_of_isAsciiBlank hblank
    rw [List.map_cons, hlower, dropHexMarks_cons htext.head?_ne_x, readHexFrom_blank hblank, ih]
  | mark hmark _ ih => rw [hmark.dropHexMarks, ih]
  | @byte b high low marks text bs hhigh hmarks _ hlow htext ih =>
    have hinner := hmarks.head?_ne_x (head?_ne_x_of_isHexDigitOf (nibbles_lt b).2 hlow text)
    rw [List.map_cons, dropHexMarks_cons hinner, hmarks.dropHexMarks, List.map_cons,
      dropHexMarks_cons htext.head?_ne_x, hhigh.toLower (nibbles_lt b).1, hlow.toLower (nibbles_lt b).2,
      readHexFrom_byte, ih]
    rfl

theorem MarkedHex.ascii (h : MarkedHex split text bs) : ∀ c ∈ text, c.toNat < 128 := by
  have hdigit : ∀ {n : Nat} {c : Char}, n < 16 → IsHexDigitOf n c → c.toNat < 128 := fun hn hc =>
    Nat.lt_of_le_of_lt (hc.graphic hn).2 (by decide)
  have hmark : ∀ {mark : List Char}, IsHexMark mark → ∀ c ∈ mark, c.toNat < 128 := by
    rintro _ (_ | _) <;> exact List.forall_mem_cons.2 ⟨by decide, List.forall_mem_singleton.2 (by decide)⟩
  have hmarks : ∀ {marks : List Char}, HexMarks marks → ∀ c ∈ marks, c.toNat < 128 := by
    intro marks h
    induction h with
    | nil => nofun
    | cons h _ ih => exact List.forall_mem_append.2 ⟨hmark h, ih⟩
  induction h with
  | nil => nofun
  | blank h _ ih => exact List.forall_mem_cons.2 ⟨(toLower_of_isAsciiBlank h).1, ih⟩
  | mark h _ ih => exact List.forall_mem_append.2 ⟨hmark h, ih⟩
  | byte hhigh hinner _ hlow _ ih =>
    exact List.forall_mem_cons.2 ⟨hdigit (nibbles_lt _).1 hhigh, List.forall_mem_append.2
      ⟨hmarks hinner, List.forall_mem_cons.2 ⟨hdigit (nibbles_lt _).2 hlow, ih⟩⟩⟩

/-- Only the characters of marks are dropped. -/
theorem mem_dropHexMarks {c : Char} (h : c ∈ text) : c ∈ dropHexMarks text ∨ c = '0' ∨ c = 'x' := by
  fun_induction dropHexMarks text with
  | case1 rest ih => grind
  | case2 d rest _ ih => grind
  | case3 => cases h

/-- A text is read in lower case and without its marks just where it spells bytes. -/
theorem readHex_eq_ok_iff : readHex (dropHexMarks (lowerAfter [] text)) = .ok bs ↔ MarkedHex True text bs := by
  constructor
  · intro h
    rw [readHex] at h
    split at h
    · cases h
    · have hlower : ∀ c ∈ lowerAfter [] text, c.toNat < 128 ∧ c ≠ 'k' := by
        intro c hc
        rcases mem_dropHexMarks hc with hmem | rfl | rfl
        · have hle := le_of_readHexFrom h c hmem
          refine ⟨Nat.lt_of_le_of_lt hle (by decide), ?_⟩
          rintro rfl
          exact absurd hle (by decide)
        · decide
        · decide
      have hascii := ascii_of_lowerAfter hlower
      rw [lowerAfter_of_ascii hascii] at h
      exact markedHex_of_readHexFrom hascii h
  · intro h
    have hread := h.readHexFrom 0
    have hascii : ∀ c ∈ dropHexMarks (text.map Char.toLower), c.toNat < 128 := fun c hc =>
      Nat.lt_of_le_of_lt (le_of_readHexFrom hread c hc) (by decide)
    rw [lowerAfter_of_ascii h.ascii, readHex, List.findIdx?_eq_none_iff.2 (by simpa using hascii)]
    exact hread

/-! ## Marks within a byte -/

theorem MarkedHex.append {more : List Char} {bs' : List UInt8} (h : MarkedHex split text bs)
    (hmore : MarkedHex split more bs') : MarkedHex split (text ++ more) (bs ++ bs') := by
  induction h with
  | nil => exact hmore
  | blank hblank _ ih => exact .blank hblank ih
  | mark hmark _ ih =>
    rw [List.append_assoc]
    exact .mark hmark ih
  | byte hhigh hmarks hsplit hlow _ ih =>
    rw [List.cons_append, List.append_assoc, List.cons_append, List.cons_append]
    exact .byte hhigh hmarks hsplit hlow ih

/-- Behind some bytes, a text has a mark between the two digits of a byte. -/
def SplitsByte (text : List Char) : Prop :=
  ∃ before bs b high marks low after, MarkedHex True before bs ∧ IsHexDigitOf (UInt8.toNat b / 16) high ∧
    IsHexDigitOf (b.toNat % 16) low ∧ HexMarks marks ∧ marks ≠ [] ∧
    text = before ++ high :: (marks ++ low :: after)

theorem SplitsByte.behind (h : SplitsByte rest) (htext : MarkedHex True text bs) :
    SplitsByte (text ++ rest) := by
  obtain ⟨before, bs', b, high, marks, low, after, hbefore, hhigh, hlow, hmarks, hne, rfl⟩ := h
  exact ⟨text ++ before, _, b, high, marks, low, after, htext.append hbefore, hhigh, hlow, hmarks, hne,
    (List.append_assoc ..).symm⟩

theorem MarkedHex.mono (h : MarkedHex False text bs) : MarkedHex True text bs := by
  induction h with
  | nil => exact .nil
  | blank hblank _ ih => exact .blank hblank ih
  | mark hmark _ ih => exact .mark hmark ih
  | byte hhigh hmarks _ hlow _ ih => exact .byte hhigh hmarks (fun _ => trivial) hlow ih

theorem MarkedHex.strict_or_splits (h : MarkedHex True text bs) :
    MarkedHex False text bs ∨ SplitsByte text := by
  induction h with
  | nil => exact .inl .nil
  | blank hblank _ ih =>
    exact ih.imp (.blank hblank) fun h => h.behind (.blank hblank .nil)
  | mark hmark _ ih =>
    have hmarks : MarkedHex True _ [] := .mark hmark .nil
    rw [List.append_nil] at hmarks
    exact ih.imp (.mark hmark) fun h => h.behind hmarks
  | @byte b high low marks text bs hhigh hmarks _ hlow _ ih =>
    by_cases hne : marks = []
    · subst hne
      exact ih.imp (.byte hhigh .nil (absurd rfl) hlow) fun h =>
        h.behind (.byte hhigh .nil (absurd rfl) hlow .nil)
    · exact .inr ⟨[], [], b, high, marks, low, text, .nil, hhigh, hlow, hmarks, hne, rfl⟩

theorem not_isAsciiBlank_of_isHexDigitOf {n : Nat} (hn : n < 16) {c : Char} (h : IsHexDigitOf n c) :
    ¬isAsciiBlank c = true := by
  intro hblank
  have hlow := le_of_isAsciiBlank hblank
  have hhigh := (h.graphic hn).1
  exact absurd (Nat.le_trans hhigh hlow) (by decide)

/-- Where marks stand between bytes only, a text goes on behind a blank, a mark or two digits. -/
theorem MarkedHex.strict_cons {c : Char} (h : MarkedHex False (c :: rest) bs) :
    (isAsciiBlank c = true ∧ ∃ bs', MarkedHex False rest bs') ∨
      ¬isAsciiBlank c = true ∧ ∃ d tail bs', rest = d :: tail ∧ MarkedHex False tail bs' := by
  generalize htext : c :: rest = text at h
  cases h with
  | nil => cases htext
  | blank hblank h =>
    obtain ⟨rfl, rfl⟩ := List.cons.inj htext
    exact .inl ⟨hblank, _, h⟩
  | mark hmark h =>
    cases hmark <;> obtain ⟨rfl, rfl⟩ := List.cons.inj htext <;>
      exact .inr ⟨by decide, _, _, _, rfl, h⟩
  | @byte _ _ _ marks _ _ hhigh _ hsplit _ h =>
    obtain ⟨rfl, rfl⟩ := List.cons.inj htext
    obtain rfl : marks = [] := Classical.not_not.1 hsplit
    exact .inr ⟨not_isAsciiBlank_of_isHexDigitOf (nibbles_lt _).1 hhigh, _, _, _, rfl, h⟩

/-- A mark right behind a digit is not read as one. -/
theorem MarkedHex.not_mark {high : Char} {marks : List Char} (h : MarkedHex False (high :: (marks ++ rest)) bs)
    (hhigh : ¬isAsciiBlank high = true) (hmarks : HexMarks marks) : marks = [] := by
  rcases h.strict_cons with ⟨hblank, -⟩ | ⟨-, d, tail, bs', hrest, h⟩
  · exact absurd hblank hhigh
  · cases hmarks with
    | nil => rfl
    | cons hmark _ =>
      cases hmark <;> obtain ⟨rfl, rfl⟩ := List.cons.inj hrest <;> exact absurd rfl h.head?_ne_x

theorem MarkedHex.not_splitsByte (h : MarkedHex False text bs) : ¬SplitsByte text := by
  rintro ⟨before, cs, b, high, marks, low, after, hbefore, hhigh, hlow, hmarks, hne, rfl⟩
  induction hbefore generalizing bs with
  | nil => exact hne (h.not_mark (not_isAsciiBlank_of_isHexDigitOf (nibbles_lt b).1 hhigh) hmarks)
  | blank hblank _ ih =>
    rcases h.strict_cons with ⟨-, bs', h⟩ | ⟨hblank', -⟩
    · exact ih h
    · exact hblank' hblank
  | mark hmark _ ih =>
    cases hmark <;> rcases h.strict_cons with ⟨hblank, -⟩ | ⟨-, d, tail, bs', hrest, h⟩
    · exact absurd hblank (by decide)
    · obtain ⟨rfl, rfl⟩ := List.cons.inj hrest
      exact ih h
    · exact absurd hblank (by decide)
    · obtain ⟨rfl, rfl⟩ := List.cons.inj hrest
      exact ih h
  | @byte b' high' low' marks' text' bs' hhigh' hmarks' _ hlow' _ ih =>
    have hdigit := not_isAsciiBlank_of_isHexDigitOf (nibbles_lt b').1 hhigh'
    rw [List.cons_append, List.append_assoc] at h
    obtain rfl := h.not_mark hdigit hmarks'
    rcases h.strict_cons with ⟨hblank, -⟩ | ⟨-, d, tail, bs', hrest, h⟩
    · exact hdigit hblank
    · obtain ⟨rfl, rfl⟩ := List.cons.inj hrest
      exact ih h

end GateRollout.Document
