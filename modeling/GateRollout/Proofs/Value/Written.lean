import GateRollout.Proofs.Journal
import GateRollout.Device.Target

/-!
# Values that have texts

A value has a text when every integer in it is short enough to be written.  Where a value has none, so has
no message that names it, and what asks for the message fails in one way.
-/

namespace GateRollout

namespace Value

variable {v : Value} {s : String}

theorem membersHaveText_iff {xs : List Value} :
    membersHaveText xs = true ↔ ∀ x ∈ xs, x.hasText = true := by
  induction xs with
  | nil => simp [membersHaveText]
  | cons x xs ih => rw [membersHaveText, Bool.and_eq_true, ih, List.forall_mem_cons]

theorem entriesHaveText_iff {es : Entries} :
    entriesHaveText es = true ↔ ∀ e ∈ es, e.1.hasText = true ∧ e.2.hasText = true := by
  induction es with
  | nil => simp [entriesHaveText]
  | cons e es ih =>
    rw [entriesHaveText, Bool.and_eq_true, Bool.and_eq_true, ih, List.forall_mem_cons]

theorem hasText_int {n : Int} : (Value.int n).hasText = Text.isWritten n := by rw [hasText]

@[simp] theorem hasText_str : (Value.str s).hasText = true := by rw [hasText] <;> nofun

/-- What is empty has a text, so that what has none counts as given. -/
theorem isGiven_of_not_hasText (h : ¬v.hasText = true) : v.isGiven = true := by
  by_contra hgiven
  refine h ?_
  cases v with
  | int n =>
    obtain rfl : n = 0 := by simpa [isGiven] using hgiven
    exact hasText_int.trans (by decide)
  | list xs | tuple xs | set xs =>
    obtain rfl : xs = [] := by simpa [isGiven] using hgiven
    rfl
  | map es =>
    obtain rfl : es = [] := by simpa [isGiven] using hgiven
    rfl
  | _ => rfl

theorem written_eq_ok : v.written = .ok s ↔ v.hasText = true ∧ v.text = s := by
  cases h : v.hasText <;> simp [written, h]

theorem words_eq_ok : v.words = .ok s ↔ v.hasText = true ∧ v.text = s := by
  rw [words, mapError_eq_ok, written_eq_ok]

theorem words_of_hasText (h : v.hasText = true) : v.words = .ok v.text := words_eq_ok.2 ⟨h, rfl⟩

theorem words_of_not_hasText (h : ¬v.hasText = true) : v.words = .error .unwritten := by
  rw [words, written, if_neg h]
  rfl

end Value

namespace Target

variable {t : Target} {s : String}

theorem words_eq_ok : t.words = .ok s ↔ t.deviceName.hasText = true ∧ t.label = s := by
  cases h : t.deviceName.hasText <;> simp [words, h]

theorem words_of_hasText (h : t.deviceName.hasText = true) : t.words = .ok t.label :=
  words_eq_ok.2 ⟨h, rfl⟩

theorem words_of_not_hasText (h : ¬t.deviceName.hasText = true) : t.words = .error .unwritten := if_neg h

end Target

end GateRollout
