/-!
# Replacement

A pattern in a text, replaced wherever it stands.
-/

namespace GateRollout.Text

/-- A text with every occurrence of a pattern replaced, from left to right and without overlaps.  The
pattern is not empty, and the first `taken` characters belong to an occurrence that is replaced already. -/
def replaceFrom (pattern new : List Char) : Nat → List Char → List Char
  | _, [] => []
  | taken + 1, _ :: s => replaceFrom pattern new taken s
  | 0, c :: s =>
    if pattern.isPrefixOf (c :: s) then new ++ replaceFrom pattern new (pattern.length - 1) s
    else c :: replaceFrom pattern new 0 s

/-- A text with every occurrence of a pattern replaced; the pattern is not empty. -/
def replace (s pattern new : String) : String :=
  String.ofList (replaceFrom pattern.toList new.toList 0 s.toList)

/-- A character, or what it is replaced by. -/
def replaceChar (c : Char) (new : List Char) (d : Char) : List Char :=
  if d = c then new else [d]

@[simp] theorem replaceChar_self (c : Char) (new : List Char) : replaceChar c new c = new :=
  if_pos rfl

theorem replaceChar_of_ne {c d : Char} (h : d ≠ c) (new : List Char) : replaceChar c new d = [d] :=
  if_neg h

/-- A pattern of one character is replaced character by character. -/
theorem replaceFrom_char (c : Char) (new s : List Char) :
    replaceFrom [c] new 0 s = s.flatMap (replaceChar c new) := by
  induction s with
  | nil => rfl
  | cons d s ih =>
    rw [replaceFrom, List.flatMap_cons]
    by_cases hd : d = c
    · simp [hd, ih]
    · simp [replaceChar_of_ne hd, Ne.symm hd, ih]

theorem toList_replace_char {pattern : String} {c : Char} (h : pattern.toList = [c]) (s new : String) :
    (replace s pattern new).toList = s.toList.flatMap (replaceChar c new.toList) := by
  rw [replace, String.toList_ofList, h, replaceFrom_char]

end GateRollout.Text
