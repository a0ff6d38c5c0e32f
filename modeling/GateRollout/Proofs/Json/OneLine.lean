import GateRollout.Proofs.Json.Data
import GateRollout.Proofs.Json.Sorting
import GateRollout.Proofs.Json.Tokens

/-!
# Printed data takes one line

The text of JSON data is in printable ASCII, whatever characters its texts hold, so that it stands on one
line.
-/

namespace GateRollout.Json

/-- Characters in printable ASCII. -/
def IsLine (cs : List Char) : Prop := ∀ c ∈ cs, 32 ≤ c.toNat ∧ c.toNat ≤ 126

instance : DecidablePred IsLine := fun cs => List.decidableBAll _ cs

namespace IsLine

variable {cs ds : List Char}

theorem append (h : IsLine cs) (h' : IsLine ds) : IsLine (cs ++ ds) :=
  List.forall_mem_append.2 ⟨h, h'⟩

theorem cons {c : Char} (hc : 32 ≤ c.toNat ∧ c.toNat ≤ 126) (h : IsLine cs) : IsLine (c :: cs) :=
  List.forall_mem_cons.2 ⟨hc, h⟩

theorem singleton {c : Char} (hc : 32 ≤ c.toNat ∧ c.toNat ≤ 126) : IsLine [c] :=
  cons hc nofun

theorem flatMap {α : Type} {f : α → List Char} {xs : List α} (h : ∀ x ∈ xs, IsLine (f x)) :
    IsLine (xs.flatMap f) := by
  intro c hc
  obtain ⟨x, hx, hc⟩ := List.mem_flatMap.1 hc
  exact h x hx c hc

/-- Lines with a line between any two of them make one line. -/
theorem intercalate {mark : String} (hmark : IsLine mark.toList) {texts : List String}
    (h : ∀ t ∈ texts, IsLine t.toList) : IsLine (mark.intercalate texts).toList := by
  induction texts with
  | nil => exact nofun
  | cons t texts ih =>
    rw [List.forall_mem_cons] at h
    cases texts with
    | nil =>
      rw [String.intercalate_singleton]
      exact h.1
    | cons t' texts =>
      rw [String.intercalate_cons_cons, String.toList_append, String.toList_append]
      exact (h.1.append hmark).append (ih h.2)

end IsLine

theorem hexDigit_graphic {n : Nat} (h : n < 16) :
    32 ≤ (Text.hexDigit n).toNat ∧ (Text.hexDigit n).toNat ≤ 126 := by
  have hall : ∀ n < 16, 32 ≤ (Text.hexDigit n).toNat ∧ (Text.hexDigit n).toNat ≤ 126 := by decide
  exact hall n h

theorem isLine_unitEscape {n : Nat} (h : n < 0x10000) : IsLine (unitEscape n) := by
  rw [unitEscape, hexPadded_four h]
  refine .cons (by decide) (.cons (by decide) (.cons (hexDigit_graphic (by omega)) ?_))
  exact .cons (hexDigit_graphic (by omega))
    (.cons (hexDigit_graphic (by omega)) (.singleton (hexDigit_graphic (by omega))))

theorem isLine_escapeChar (c : Char) : IsLine (escapeChar c) := by
  have hvalid : c.toNat < 0xD800 ∨ 0xDFFF < c.toNat ∧ c.toNat < 0x110000 := c.valid
  fun_cases escapeChar c with
  | case8 _ _ _ _ _ _ _ hc =>
    rw [Bool.and_eq_true, decide_eq_true_eq, decide_eq_true_eq] at hc
    exact .singleton (by omega)
  | case9 _ _ _ _ _ _ _ _ hc => exact isLine_unitEscape hc
  | case10 => exact (isLine_unitEscape (by omega)).append (isLine_unitEscape (by omega))
  | _ => exact .cons (by decide) (.singleton (by decide))

theorem isLine_stringText (s : String) : IsLine (stringText s).toList := by
  rw [stringText, String.toList_ofList]
  exact ((IsLine.flatMap fun c _ => isLine_escapeChar c).cons (by decide)).append (.singleton (by decide))

theorem isLine_intText (n : Int) : IsLine (Text.intText n).toList := by
  intro c hc
  rw [Text.intText, String.toList_ofList] at hc
  have := Text.graphic_of_mem_intDigits hc
  omega

variable {layout : Layout}

theorem mem_of_printMembers {xs : List Value} {texts : List String} (h : printMembers layout xs = .ok texts) :
    ∀ t ∈ texts, ∃ x ∈ xs, print layout x = .ok t := by
  induction xs generalizing texts with
  | nil =>
    rw [printMembers] at h
    cases h
    nofun
  | cons x xs ih =>
    rw [printMembers] at h
    obtain ⟨text, htext, h⟩ := bind_eq_ok.1 h
    obtain ⟨rest, hrest, h⟩ := bind_eq_ok.1 h
    obtain rfl := Except.ok.inj h
    refine List.forall_mem_cons.2 ⟨⟨x, List.mem_cons_self, htext⟩, fun t ht => ?_⟩
    obtain ⟨y, hy, hprint⟩ := ih hrest t ht
    exact ⟨y, List.mem_cons_of_mem _ hy, hprint⟩

theorem mem_of_printEntries {fields : List (String × Value)} {texts : List String}
    (h : printEntries layout (Entries.named fields) = .ok texts) :
    ∀ t ∈ texts, ∃ f ∈ fields, ∃ value, print layout f.2 = .ok value ∧
      t = stringText f.1 ++ layout.keyMark ++ value := by
  induction fields generalizing texts with
  | nil =>
    obtain rfl : [] = texts := Except.ok.inj h
    nofun
  | cons f fields ih =>
    change printEntries layout ((.str f.1, f.2) :: Entries.named fields) = _ at h
    rw [printEntries] at h
    obtain ⟨key, hkey, h⟩ := bind_eq_ok.1 h
    obtain ⟨value, hvalue, h⟩ := bind_eq_ok.1 h
    obtain ⟨rest, hrest, h⟩ := bind_eq_ok.1 h
    obtain rfl : f.1 = key := Except.ok.inj hkey
    obtain rfl := Except.ok.inj h
    refine List.forall_mem_cons.2 ⟨⟨f, List.mem_cons_self, value, hvalue, rfl⟩, fun t ht => ?_⟩
    obtain ⟨g, hg, hprint⟩ := ih hrest t ht
    exact ⟨g, List.mem_cons_of_mem _ hg, hprint⟩

/-- Data is printed on one line when the marks are. -/
theorem isLine_print (hitem : IsLine layout.itemMark.toList) (hkey : IsLine layout.keyMark.toList) {v : Value}
    (h : v.IsJson) {text : String} (ht : print layout v = .ok text) : IsLine text.toList := by
  induction h generalizing text with
  | null =>
    rw [print] at ht
    obtain rfl := Except.ok.inj ht
    decide
  | bool b =>
    rw [print] at ht
    obtain rfl := Except.ok.inj ht
    cases b <;> decide
  | int =>
    rw [print, integerText_eq_ok] at ht
    obtain ⟨-, rfl⟩ := ht
    exact isLine_intText _
  | str s =>
    rw [print] at ht
    obtain rfl := Except.ok.inj ht
    exact isLine_stringText s
  | list items ih =>
    rw [print] at ht
    obtain ⟨texts, htexts, ht⟩ := bind_eq_ok.1 ht
    obtain rfl := Except.ok.inj ht
    rw [String.toList_append, String.toList_append]
    have hopen : IsLine "[".toList := .singleton (by decide)
    refine (hopen.append (.intercalate hitem fun t hmem => ?_)).append (.singleton (by decide))
    obtain ⟨x, hx, hprint⟩ := mem_of_printMembers htexts t hmem
    exact ih x hx hprint
  | map distinct values ih =>
    obtain ⟨-, texts, htexts, rfl⟩ := print_map_eq_ok.1 ht
    rw [String.toList_append, String.toList_append]
    have hopen : IsLine "\x7b".toList := .singleton (by decide)
    refine (hopen.append (.intercalate hitem fun t hmem => ?_)).append (.singleton (by decide))
    obtain ⟨f, hf, value, hprint, rfl⟩ := mem_of_printEntries htexts t hmem
    rw [String.toList_append, String.toList_append]
    exact ((isLine_stringText f.1).append hkey).append (ih f hf hprint)

end GateRollout.Json
