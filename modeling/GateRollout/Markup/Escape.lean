import GateRollout.Text.Replace

/-!
# Escaping

Character data with its three special characters written as entities.  They are replaced one after the
other in the whole text, which comes to the same as replacing each character on its own.
-/

namespace GateRollout.Markup

open Text

/-- A character as character data. -/
def escapeChar (c : Char) : List Char :=
  match c with
  | '&' => ['&', 'a', 'm', 'p', ';']
  | '<' => ['&', 'l', 't', ';']
  | '>' => ['&', 'g', 't', ';']
  | c => [c]

/-- A text as character data, character by character. -/
def escapeChars (s : List Char) : List Char := s.flatMap escapeChar

/-- A text as character data.  The ampersand is replaced first, because the other entities begin with
one. -/
def escape (s : String) : String :=
  replace (replace (replace s "&" "&amp;") "<" "&lt;") ">" "&gt;"

@[simp] theorem escapeChars_nil : escapeChars [] = [] := rfl

@[simp] theorem escapeChars_append (s t : List Char) :
    escapeChars (s ++ t) = escapeChars s ++ escapeChars t := by
  simp [escapeChars]

/-- No replacement touches what an earlier one has put in place of a character. -/
theorem escapeChar_eq_passes (c : Char) :
    ((replaceChar '&' "&amp;".toList c).flatMap (replaceChar '<' "&lt;".toList)).flatMap
      (replaceChar '>' "&gt;".toList) = escapeChar c := by
  unfold escapeChar
  split
  · rfl
  · rfl
  · rfl
  · next hamp hlt hgt =>
    rw [replaceChar_of_ne hamp, List.flatMap_singleton, replaceChar_of_ne hlt, List.flatMap_singleton,
      replaceChar_of_ne hgt]

/-- Replacing one special character after the other in the whole text is replacing each character on its
own. -/
theorem toList_escape (s : String) : (escape s).toList = escapeChars s.toList := by
  have hamp : "&".toList = ['&'] := rfl
  have hlt : "<".toList = ['<'] := rfl
  have hgt : ">".toList = ['>'] := rfl
  rw [escape, toList_replace_char hgt, toList_replace_char hlt, toList_replace_char hamp,
    List.flatMap_assoc, List.flatMap_assoc, escapeChars]
  refine congrArg s.toList.flatMap (funext fun c => ?_)
  rw [← escapeChar_eq_passes, List.flatMap_assoc]

end GateRollout.Markup
