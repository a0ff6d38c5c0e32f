import GateRollout.Proofs.Text.Hex

/-!
# Lower case and ASCII

Within ASCII the lower-case form of a text is a lower-case form itself.  Hardly any letter outside ASCII
comes into ASCII in lower case: the Kelvin sign becomes a `k`, and a capital `I` with a dot brings its dot
along.  So a text whose lower-case form is ASCII without a `k` is ASCII itself.
-/

namespace GateRollout.Text

/-! ## Texts within ASCII -/

/-- All characters of a text are ASCII. -/
def IsAscii (s : String) : Prop := ∀ c ∈ s.toList, c.toNat < 128

instance : DecidablePred IsAscii := fun s =>
  List.decidableBAll (fun c : Char => c.toNat < 128) s.toList

/-- What holds of the first 128 characters holds of ASCII. -/
theorem forall_ascii {P : Char → Prop} (h : ∀ n < 128, P (Char.ofNat n)) {c : Char}
    (hc : c.toNat < 128) : P c := Char.ofNat_toNat c ▸ h c.toNat hc

theorem toLower_of_ascii {c : Char} (h : c.toNat < 128) :
    c.toLower.toNat < 128 ∧ c.toLower.toLower = c.toLower := by
  have hall : ∀ n < 128, (Char.ofNat n).toLower.toNat < 128 ∧
      (Char.ofNat n).toLower.toLower = (Char.ofNat n).toLower := by decide
  exact forall_ascii (P := fun c => c.toLower.toNat < 128 ∧ c.toLower.toLower = c.toLower) hall h

theorem toList_lower_of_ascii {s : String} (h : IsAscii s) : (lower s).toList = s.toList.map Char.toLower := by
  rw [lower, String.toList_ofList, lowerAfter_of_ascii h]

theorem lower_lower_of_ascii {s : String} (h : IsAscii s) : lower (lower s) = lower s := by
  have hlower : IsAscii (lower s) := by
    rw [IsAscii, toList_lower_of_ascii h]
    exact List.forall_mem_map.2 fun c hc => (toLower_of_ascii (h c hc)).1
  refine String.toList_injective ?_
  rw [toList_lower_of_ascii hlower, toList_lower_of_ascii h, List.map_map]
  exact List.map_congr_left fun c hc => (toLower_of_ascii (h c hc)).2

theorem lower_eq_empty_iff {s : String} : lower s = "" ↔ s = "" := by
  rw [lower, String.ofList_eq_empty_iff]
  constructor
  · intro h
    cases hs : s.toList with
    | nil => rwa [String.toList_eq_nil_iff] at hs
    | cons c rest =>
      rw [hs, lowerAfter, List.append_eq_nil_iff] at h
      split at h
      · cases h.1
      · split at h
        · split at h <;> cases h.1
        · cases h.1
  · rintro rfl
    rfl

/-! ## Texts outside ASCII -/

/-- The lower-case forms of a run of letters are characters outside ASCII, or the run is the Kelvin
sign. -/
def staysOutside (run : Nat × Nat × Nat × Int) : Bool :=
  let (first, last, _, shift) := run
  let low := (first : Int) + shift
  let high := (last : Int) + shift
  (128 ≤ low && (high < 0xD800 || 0xE000 ≤ low && high < 0x110000)) ||
    first == last && low == 'k'.toNat

theorem lowerRuns_stayOutside : lowerRuns.all staysOutside = true := by decide

theorem toNat_ofNat_of_valid {n : Nat} (h : n.isValidChar) : (Char.ofNat n).toNat = n := by
  rw [Char.ofNat, dif_pos h]
  rfl

theorem lowerChar_of_not_ascii {c : Char} (h : 128 ≤ c.toNat) :
    128 ≤ (lowerChar c).toNat ∨ lowerChar c = 'k' := by
  rw [lowerChar, if_neg (by omega)]
  split
  case h_1 first last step shift hfind =>
    have hrun := List.all_eq_true.1 lowerRuns_stayOutside _ (List.mem_of_find?_eq_some hfind)
    have hrange := List.find?_some hfind
    simp only [staysOutside, Bool.or_eq_true, Bool.and_eq_true, decide_eq_true_eq, beq_iff_eq] at hrun
    simp only [Bool.and_eq_true, decide_eq_true_eq, beq_iff_eq] at hrange
    obtain ⟨⟨hfirst, hlast⟩, -⟩ := hrange
    rcases hrun with ⟨hlow, hvalid⟩ | ⟨hone, hkelvin⟩
    · refine .inl ?_
      have hchar : ((c.toNat : Int) + shift).toNat.isValidChar := by
        rcases hvalid with hvalid | hvalid
        · exact .inl (by omega)
        · exact .inr (by omega)
      rw [toNat_ofNat_of_valid hchar]
      omega
    · refine .inr ?_
      have hcode : ((c.toNat : Int) + shift).toNat = 'k'.toNat := by omega
      rw [hcode, Char.ofNat_toNat]
  case h_2 => exact .inl h

/-- A text is ASCII where its lower-case form is, and holds no `k`. -/
theorem ascii_of_lowerAfter {s before : List Char}
    (h : ∀ c ∈ lowerAfter before s, c.toNat < 128 ∧ c ≠ 'k') : ∀ c ∈ s, c.toNat < 128 := by
  induction s generalizing before with
  | nil => nofun
  | cons c rest ih =>
    rw [lowerAfter, List.forall_mem_append] at h
    obtain ⟨hhere, hrest⟩ := h
    refine List.forall_mem_cons.2 ⟨Nat.lt_of_not_le fun hout => ?_, ih hrest⟩
    split at hhere
    · exact absurd (hhere '\u0307' (by simp)).1 (by decide)
    · split at hhere
      · split at hhere
        · exact absurd (hhere 'ς' (by simp)).1 (by decide)
        · exact absurd (hhere 'σ' (by simp)).1 (by decide)
      · obtain ⟨hascii, hne⟩ := hhere (lowerChar c) (by simp)
        rcases lowerChar_of_not_ascii hout with hlow | hkelvin
        · omega
        · exact hne hkelvin

end GateRollout.Text
