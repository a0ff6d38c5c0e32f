import GateRollout.Proofs.Json.Sorting
import GateRollout.Rollout.Engine

/-!
# Audit records can be written

Apart from the name of the device, the record of a result holds texts, truth values and nothing, all of
which have a JSON text.  So recording the results of a rollout fails only where JSON has no text for the
name of a device, such as a day, bytes, or an integer of too many digits.
-/

namespace GateRollout

/-- Data without parts that JSON has: nothing, a truth value, or a text. -/
inductive Value.IsPlain : Value → Prop where
  | null : IsPlain .null
  | bool (b : Bool) : IsPlain (.bool b)
  | str (s : String) : IsPlain (.str s)

theorem TargetResult.isPlain_optionalText (s : Option String) : (optionalText s).IsPlain := by
  cases s with
  | none => exact .null
  | some s => exact .str s

/-- Data that has a place in a line of JSON. -/
def Value.IsWritable (v : Value) : Prop := ∃ s, Json.print .spaced v = .ok s

theorem Value.IsPlain.isWritable {v : Value} (h : v.IsPlain) : v.IsWritable := by
  cases h <;> exact ⟨_, by rw [Json.print]⟩

/-- Entries under texts have a JSON text when their values have, and only then. -/
theorem Json.printEntries_ok_iff (fields : List (String × Value)) :
    (∃ texts, printEntries .spaced (fields.map fun f => (.str f.1, f.2)) = .ok texts) ↔
      ∀ f ∈ fields, f.2.IsWritable := by
  induction fields with
  | nil => simp [printEntries]
  | cons f fields ih =>
    rw [List.map_cons, List.forall_mem_cons, printEntries, keyText, ← ih]
    change (∃ texts, (do
      let value ← print .spaced f.2
      return _ :: (← printEntries .spaced _)) = Except.ok texts) ↔ _
    constructor
    · rintro ⟨texts, h⟩
      obtain ⟨value, hvalue, h⟩ := bind_eq_ok.1 h
      obtain ⟨rest, hrest, -⟩ := bind_eq_ok.1 h
      exact ⟨⟨value, hvalue⟩, rest, hrest⟩
    · rintro ⟨⟨value, hvalue⟩, rest, hrest⟩
      exact ⟨_, bind_eq_ok.2 ⟨value, hvalue, bind_eq_ok.2 ⟨rest, hrest, rfl⟩⟩⟩

namespace PushRecord

theorem toJson_eq (r : PushRecord) :
    r.toJson = Except.mapError (fun f => .fault f.toFault) (do
      return "\x7b" ++ Json.Layout.spaced.itemMark.intercalate
        (← Json.printEntries .spaced (r.fields.map fun f => (.str f.1, f.2))) ++ "\x7d") := by
  change Except.mapError _ (Json.print .spaced (.map (r.fields.map fun f => (.str f.1, f.2)))) = _
  rw [Json.print]
  rfl

/-- A record can be written when all its parts can. -/
theorem toJson_cases (r : PushRecord) :
    ((∀ f ∈ r.fields, f.2.IsWritable) ∧ ∃ line, r.toJson = .ok line) ∨
    (¬(∀ f ∈ r.fields, f.2.IsWritable) ∧ ∃ f, Json.IsWriteFault f ∧ r.toJson = .error (.fault f)) := by
  rw [toJson_eq, ← Json.printEntries_ok_iff]
  cases Json.printEntries .spaced (r.fields.map fun f => (.str f.1, f.2)) with
  | ok texts => exact .inl ⟨⟨texts, rfl⟩, _, rfl⟩
  | error f => exact .inr ⟨nofun, _, Json.isWriteFault_toFault f, rfl⟩

theorem cutError_ok (error : Option String) :
    ∃ v, cutError (TargetResult.optionalText error) = .ok v ∧ v.IsPlain := by
  cases error with
  | none => exact ⟨.null, rfl, .null⟩
  | some s =>
    change ∃ v, (if (!(Value.str s).isGiven) = true then _ else _) = _ ∧ _
    split
    · exact ⟨.null, rfl, .null⟩
    · exact ⟨_, rfl, .str _⟩

end PushRecord

namespace Engine

variable {σ : Type}

/-- The record of a result of a schedule has a line when the name of the device can be written. -/
theorem auditRecord_line (now : DateTime) (s : Schedule) (options : RunOptions) (r : TargetResult)
    (hsum : options.checksum.IsPlain) :
    ∃ record, auditRecord now (.schedule s) options r = .ok record ∧
      ((r.nodeId.IsWritable ∧ ∃ line, record.toJson = .ok line) ∨
        (¬r.nodeId.IsWritable ∧ ∃ f, Json.IsWriteFault f ∧ record.toJson = .error (.fault f))) := by
  obtain ⟨error, herror, hplain⟩ := PushRecord.cutError_ok r.error
  obtain ⟨record, hrecord, hfields⟩ : ∃ record, auditRecord now (.schedule s) options r = .ok record ∧
      ((∀ f ∈ record.fields, f.2.IsWritable) ↔ r.nodeId.IsWritable) := by
    refine ⟨_, by rw [auditRecord, herror]; rfl, ?_⟩
    simp only [PushRecord.fields, List.mem_cons, List.not_mem_nil, or_false, forall_eq_or_imp, forall_eq]
    refine ⟨fun h => h.2.1, fun hid => ?_⟩
    have hstr : ∀ t, (Value.str t).IsWritable := fun t => (Value.IsPlain.str t).isWritable
    exact ⟨hstr _, hid, hstr _, hstr _, (TargetResult.isPlain_optionalText _).isWritable, hstr _, hstr _,
      (Value.IsPlain.bool _).isWritable, hsum.isWritable, hplain.isWritable⟩
  rw [← hfields]
  exact ⟨record, hrecord, record.toJson_cases⟩

/-- Recording results does not fail when the clock and the log do not. -/
theorem succeeds_auditAll {e : Engine σ} (hnow : e.now.Succeeds)
    (haudit : ∀ line, (e.audit line).Succeeds) (s : Schedule) (options : RunOptions)
    (hsum : options.checksum.IsPlain) (results : List TargetResult)
    (hid : ∀ r ∈ results, r.nodeId.IsPlain) :
    (e.auditAll (.schedule s) options results).Succeeds := by
  refine Action.succeeds_forM fun r hr => hnow.bind fun now j => ?_
  obtain ⟨record, hrecord, ⟨-, line, hline⟩ | ⟨hn, -⟩⟩ := auditRecord_line now s options r hsum
  · rw [hrecord, Action.exec_bind_ok (Action.exec_ofExcept _ j), hline,
      Action.exec_bind_ok (Action.exec_ofExcept _ j)]
    exact haudit line j
  · exact absurd (hid r hr).isWritable hn

end Engine

end GateRollout
