import GateRollout.Proofs.Json.ReadBack
import GateRollout.Proofs.Json.OneLine
import GateRollout.Proofs.Audit.Record
import GateRollout.Audit.History

/-!
# Lines of the audit log

A record takes one line of the log, whatever characters its texts hold, and is read back from it.  A line of
other text holds no record.  So the records of a log are those of its lines, in their order.
-/

namespace GateRollout

/-! ## Records on lines -/

namespace PushRecord

/-- All that a record holds is JSON data. -/
def IsJson (r : PushRecord) : Prop := ∀ f ∈ r.fields, f.2.IsJson

theorem ofEntries_fields (r : PushRecord) : ofEntries (Entries.named r.fields) = .ok r := rfl

theorem isJson_map_fields {r : PushRecord} (h : r.IsJson) : (Value.map (Entries.named r.fields)).IsJson := by
  refine .map ?_ h
  change PushRecord.names.Nodup
  decide

/-- The line of a record is read back as the record. -/
theorem toJson_ok {r : PushRecord} (h : r.IsJson) :
    ∃ line, r.toJson = .ok line ∧ ofJson line = .ok r ∧ Json.IsLine line.toList ∧
      ∃ body, line.toList = '\x7b' :: (body ++ ['\x7d']) := by
  obtain ⟨line, hprint, hback⟩ := Json.print_readsBack Json.Layout.isReadable_spaced (isJson_map_fields h)
  have hjson : r.toJson = .ok line := by
    change Except.mapError _ (Json.print .spaced (.map (Entries.named r.fields))) = _
    rw [hprint, mapError_ok]
  refine ⟨line, hjson, ?_, ?_, ?_⟩
  · rw [ofJson, Json.parse_of_readsBack hback]
    exact ofEntries_fields r
  · exact Json.isLine_print (by decide) (by decide) (isJson_map_fields h) hprint
  · rw [Json.print] at hprint
    obtain ⟨texts, -, hprint⟩ := bind_eq_ok.1 hprint
    obtain rfl := Except.ok.inj hprint
    exact ⟨_, by rw [String.toList_append, String.toList_append]; rfl⟩

end PushRecord

namespace History

open Text

theorem trimBy_of_ends {p : Char → Bool} {c d : Char} (hc : p c = false) (hd : p d = false) (s : List Char) :
    trimBy p (c :: (s ++ [d])) = c :: (s ++ [d]) := by
  rw [trimBy, List.dropWhile_cons_of_neg (by simp [hc]), List.reverse_cons, List.reverse_append,
    List.reverse_singleton, List.singleton_append, List.cons_append,
    List.dropWhile_cons_of_neg (by simp [hd])]
  simp

/-- The record of a line is found on it. -/
theorem recordOn?_toJson {r : PushRecord} (h : r.IsJson) :
    ∃ line, r.toJson = .ok line ∧ Json.IsLine line.toList ∧ recordOn? line.toList = .ok (some r) := by
  obtain ⟨line, hjson, hback, hline, body, hbody⟩ := PushRecord.toJson_ok h
  refine ⟨line, hjson, hline, ?_⟩
  have htrim : trim line.toList = line.toList := by
    rw [hbody]
    exact trimBy_of_ends (by decide) (by decide) body
  rw [recordOn?, htrim, String.ofList_toList, hback, if_neg (by rw [hbody]; nofun)]

/-- A character ends a line. -/
def IsBreak (c : Char) : Prop := c = '\n' ∨ c = '\r'

instance : DecidablePred IsBreak := fun c => inferInstanceAs (Decidable (c = '\n' ∨ c = '\r'))

/-- What a line may end with. -/
inductive IsLineEnd : List Char → Prop
  | feed : IsLineEnd ['\n']
  | both : IsLineEnd ['\r', '\n']
  | return : IsLineEnd ['\r']

theorem linesOf_append {line : List Char} (h : ∀ c ∈ line, ¬IsBreak c) (current rest : List Char) :
    linesOf current (line ++ rest) = linesOf (line.reverse ++ current) rest := by
  induction line generalizing current with
  | nil => rfl
  | cons c line ih =>
    obtain ⟨hc, h⟩ := List.forall_mem_cons.1 h
    rw [List.cons_append, linesOf, ih h, List.reverse_cons, List.append_assoc]
    · rfl
    · rintro _ rfl
      exact absurd (.inr rfl) hc
    · rintro rfl
      exact absurd (.inr rfl) hc
    · rintro rfl
      exact absurd (.inl rfl) hc

/-- The records on some lines. -/
def recordsOn (lines : List (List Char)) : Except Failure (List PushRecord) := do
  return (← lines.mapM recordOn?).filterMap id

theorem recordsOn_cons (line : List Char) (lines : List (List Char)) :
    recordsOn (line :: lines) = (do return (← recordOn? line).toList ++ (← recordsOn lines)) := by
  rw [recordsOn, recordsOn, List.mapM_cons]
  cases recordOn? line with
  | error f => rfl
  | ok r =>
    cases lines.mapM recordOn? with
    | error f => rfl
    | ok rs => cases r <;> rfl

theorem recordsOn_blank (lines : List (List Char)) : recordsOn ([] :: lines) = recordsOn lines := by
  rw [recordsOn_cons]
  change (do return [] ++ (← recordsOn lines)) = _
  cases recordsOn lines <;> rfl

/-- The records on the lines of a text. -/
def recordsIn (text : List Char) : Except Failure (List PushRecord) := recordsOn (linesOf [] text)

/-- The records of a text are that of its first line and those of the others. -/
theorem recordsIn_line {line : List Char} (h : ∀ c ∈ line, ¬IsBreak c) {ending : List Char}
    (hend : IsLineEnd ending) (rest : List Char) :
    recordsIn (line ++ (ending ++ rest)) =
      (do return (← recordOn? line).toList ++ (← recordsIn rest)) := by
  rw [recordsIn, linesOf_append h, List.append_nil]
  have hline : ∀ lines, recordsOn (line.reverse.reverse :: lines) =
      (do return (← recordOn? line).toList ++ (← recordsOn lines)) := by
    intro lines
    rw [List.reverse_reverse, recordsOn_cons]
  cases hend with
  | feed => exact hline _
  | both => exact hline _
  | «return» =>
    -- a line feed behind the carriage return goes with it, and would else begin a blank line
    cases rest with
    | nil => exact hline _
    | cons c rest =>
      by_cases hc : c = '\n'
      · subst hc
        refine (hline _).trans ?_
        have hblank : recordsIn ('\n' :: rest) = recordsOn (linesOf [] rest) := recordsOn_blank _
        rw [hblank]
      · rw [List.singleton_append, linesOf]
        · exact hline _
        · rintro _ ⟨⟩
          exact hc rfl

end History

end GateRollout
