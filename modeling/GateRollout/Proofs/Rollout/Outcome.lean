import GateRollout.Proofs.Journal
import GateRollout.Rollout.Outcome

/-!
# The line about an outcome

An outcome is told in one line, which names the devices that were skipped.  Devices are named by data of
any kind, and only texts can be joined to a line.
-/

namespace GateRollout.Outcome

/-- The text of a name at a position among others, where it is a text. -/
def textAt (name : Value × Nat) : Except Failure String :=
  match name with
  | (v, i) =>
    match v with
    | .str s => .ok s
    | v =>
      .error (.fault ⟨.wrongType,
        s!"sequence item {Text.natText i}: expected str instance, {v.qualifiedTypeName} found"⟩)

theorem textAt_cases (v : Value) (i : Nat) :
    (∃ s, v = .str s ∧ textAt (v, i) = .ok s) ∨
    ((¬∃ s, v = .str s) ∧ ∃ text, textAt (v, i) = .error (.fault ⟨.wrongType, text⟩)) := by
  cases v with
  | str s => exact .inl ⟨s, rfl, rfl⟩
  | _ => exact .inr ⟨nofun, _, rfl⟩

theorem joinedNames_eq (names : List Value) :
    joinedNames names = do return ", ".intercalate (← names.zipIdx.mapM textAt) := rfl

/-- Names can be joined when they are texts.  Else the fault is that one of them is none. -/
theorem joinedNames_cases (names : List Value) :
    ((∀ v ∈ names, ∃ s, v = .str s) ∧ ∃ text, joinedNames names = .ok text) ∨
    (¬(∀ v ∈ names, ∃ s, v = .str s) ∧
      ∃ text, joinedNames names = .error (.fault ⟨.wrongType, text⟩)) := by
  rw [joinedNames_eq]
  cases htexts : names.zipIdx.mapM textAt with
  | ok texts =>
    left
    refine ⟨?_, _, rfl⟩
    intro v hv
    obtain ⟨i, hi, rfl⟩ := List.getElem_of_mem hv
    have hmem : (names[i], i) ∈ names.zipIdx := List.mk_mem_zipIdx_iff_getElem?.2 (by simp [hi])
    obtain ⟨t, ht⟩ := ok_of_mapM_eq_ok htexts _ hmem
    rcases textAt_cases names[i] i with ⟨s, hs, -⟩ | ⟨-, text, herr⟩
    · exact ⟨s, hs⟩
    · cases ht.symm.trans herr
  | error e =>
    right
    obtain ⟨⟨v, i⟩, hv, he⟩ := mem_of_mapM_eq_error htexts
    rcases textAt_cases v i with ⟨s, -, hok⟩ | ⟨hn, text, herr⟩
    · cases he.symm.trans hok
    · obtain rfl := Except.error.inj (he.symm.trans herr)
      refine ⟨?_, text, rfl⟩
      intro h
      exact hn (h v (List.fst_mem_of_mem_zipIdx hv))

/-- The line about a rollout can be written when the devices that were skipped have texts for names.
Else the fault is that one of them has none. -/
theorem summary_cases (results : List TargetResult) (skipped : List Value) (dryRun : Bool) :
    ((∀ v ∈ skipped, ∃ s, v = .str s) ∧ ∃ text, (ofResults results skipped dryRun).summary = .ok text) ∨
    (¬(∀ v ∈ skipped, ∃ s, v = .str s) ∧
      ∃ text, (ofResults results skipped dryRun).summary = .error (.fault ⟨.wrongType, text⟩)) := by
  rw [summary, ofResults]
  simp only [Option.filter_none]
  rcases joinedNames_cases skipped with ⟨htexts, names, hn⟩ | ⟨hnone, text, hn⟩
  · refine .inl ⟨htexts, ?_⟩
    split
    · exact ⟨_, rfl⟩
    · rw [hn]
      exact ⟨_, rfl⟩
  · have hne : skipped.isEmpty = false := by
      cases skipped with
      | nil => exact absurd nofun hnone
      | cons v skipped => rfl
    refine .inr ⟨hnone, text, ?_⟩
    rw [hne, hn]
    rfl

end GateRollout.Outcome
