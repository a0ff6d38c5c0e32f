import GateRollout.Proofs.Json.Canonical
import GateRollout.Digest.Checksum

/-!
# A checksum identifies a document

The text that a checksum digests is the same for two documents exactly when they differ in the order of
their keys alone, at any depth, or in the entry of the checksum itself.
-/

namespace GateRollout

namespace Checksum

/-- The named values that a checksum covers. -/
def coveredFields (fields : List (String × Value)) : List (String × Value) :=
  fields.filter fun f => f.1 != ownKey

theorem covered_named (fields : List (String × Value)) :
    covered (Entries.named fields) = Entries.named (coveredFields fields) := by
  rw [covered, Entries.named, List.filter_map, coveredFields, Entries.named]
  refine congrArg (List.map _) (List.filter_congr fun f _ => ?_)
  simp [Value.isText, Value.asText?, bne]

theorem mem_coveredFields {fields : List (String × Value)} {f : String × Value} :
    f ∈ coveredFields fields ↔ f ∈ fields ∧ f.1 ≠ ownKey := by
  simp [coveredFields]

theorem map_fst_coveredFields (fields : List (String × Value)) :
    (coveredFields fields).map Prod.fst = (fields.map Prod.fst).filter (· != ownKey) := by
  rw [coveredFields, List.filter_map]
  rfl

theorem isJson_covered {entries : Entries} (h : (Value.map entries).IsJson) :
    (Value.map (covered entries)).IsJson := by
  obtain ⟨fields, rfl⟩ := h.eq_named
  obtain ⟨distinct, values⟩ := Value.isJson_map.1 h
  rw [covered_named, Value.isJson_map, map_fst_coveredFields]
  exact ⟨distinct.filter _, fun f hf => values f (mem_coveredFields.1 hf).1⟩

/-- Documents that are the same up to the order of their keys are so in what a checksum covers. -/
theorem rearranged_covered {d e : Entries} (hd : (Value.map d).IsJson)
    (h : (Value.map d).Rearranged (.map e)) : (Value.map (covered d)).Rearranged (.map (covered e)) := by
  obtain ⟨fields, rfl⟩ := hd.eq_named
  obtain ⟨fields', he, keys, values⟩ := h.of_map
  obtain rfl := Value.map.inj he
  rw [covered_named, covered_named]
  refine .map ?_ fun key v w hv hw => ?_
  · rw [map_fst_coveredFields, map_fst_coveredFields]
    exact keys.filter _
  · exact values key v w (mem_coveredFields.1 hv).1 (mem_coveredFields.1 hw).1

/-- Giving a document another checksum changes nothing of what its checksum covers. -/
theorem covered_put (entries : Entries) (v : Value) : covered (entries.put ownKey v) = covered entries := by
  have hmap : ∀ es : Entries, covered (es.map fun e => if e.1.isText ownKey then (e.1, v) else e) =
      covered es := by
    intro es
    induction es with
    | nil => rfl
    | cons e es ih =>
      rw [covered, covered] at ih ⊢
      cases he : e.1.isText ownKey <;> simp [he, ih]
  rw [Entries.put]
  split
  · exact hmap entries
  · rw [covered, List.filter_append]
    exact List.append_nil _

/-- The text that a checksum digests tells a document up to the order of its keys at every depth, leaving
out the entry of the checksum at the top. -/
theorem canonicalText_eq_iff {d e : Entries} (hd : (Value.map d).IsJson) (he : (Value.map e).IsJson) :
    ∃ s t, canonicalText d = .ok s ∧ canonicalText e = .ok t ∧
      ofDocument (.map d) = .ok (short (Digest.sha256Text s)) ∧
      ofDocument (.map e) = .ok (short (Digest.sha256Text t)) ∧
      (s = t ↔ (Value.map (covered d)).Rearranged (.map (covered e))) ∧
      ((Value.map d).Rearranged (.map e) → ofDocument (.map d) = ofDocument (.map e)) ∧
      ∀ v, ofDocument (.map (d.put ownKey v)) = ofDocument (.map d) := by
  have hd' := isJson_covered hd
  have he' := isJson_covered he
  obtain ⟨s, hs, hback⟩ := Json.write_canonical hd'
  obtain ⟨t, ht, hback'⟩ := Json.write_canonical he'
  have hsum : ∀ {entries text}, canonicalText entries = .ok text →
      ofDocument (.map entries) = .ok (short (Digest.sha256Text text)) := fun h => by rw [ofDocument, h]
  have hiff : s = t ↔ (Value.map (covered d)).Rearranged (.map (covered e)) := by
    rw [← Json.sorted_eq_iff hd' he']
    constructor
    · rintro rfl
      exact Except.ok.inj (hback.symm.trans hback')
    · intro h
      have hsame : canonicalText d = canonicalText e := congrArg (Json.print .canonical) h
      exact Except.ok.inj (hs.symm.trans (hsame.trans ht))
  refine ⟨s, t, hs, ht, hsum hs, hsum ht, hiff, fun h => ?_, fun v => ?_⟩
  · rw [hsum hs, hsum ht, hiff.2 (rearranged_covered hd h)]
  · rw [ofDocument, canonicalText, covered_put]
    rfl

/-- Two documents that differ in the order of their keys and in their checksums, and a third one that differs
in an entry of that name further down. -/
theorem canonicalText_eq_iff_gates :
    let gate (n : Int) : Value := .map (Entries.named [("checksum", .int n), ("open", .bool true)])
    let gate' : Value := .map (Entries.named [("open", .bool true), ("checksum", .int 1)])
    let d (n : Int) := Entries.named [("checksum", .str "old"), ("gates", .list [gate n])]
    let e := Entries.named [("gates", .list [gate'])]
    ∃ s t, canonicalText (d 1) = .ok s ∧ canonicalText e = .ok s ∧ canonicalText (d 2) = .ok t ∧ s ≠ t := by
  intro gate gate' d e
  have hd : ∀ n, Text.numeralLength n ≤ Text.maxNumeralDigits → (Value.map (d n)).IsJson := by
    intro n hn
    have hgate : (gate n).IsJson := .map (by simp) (by simp [Value.IsJson.int hn, Value.IsJson.bool])
    exact .map (by simp) (by simp [Value.IsJson.str, Value.isJson_list, hgate])
  have he : (Value.map e).IsJson := by
    have hgate : gate'.IsJson :=
      .map (by simp) (by simp [Value.IsJson.int (n := 1) (by decide), Value.IsJson.bool])
    exact .map (by simp) (by simp [Value.isJson_list, hgate])
  obtain ⟨s, s', hs, hs', -, -, hsame, -⟩ := canonicalText_eq_iff (hd 1 (by decide)) he
  obtain ⟨s'', t, hs'', ht, -, -, hother, -⟩ := canonicalText_eq_iff (hd 1 (by decide)) (hd 2 (by decide))
  have hgates : (gate 1).Rearranged gate' := by
    refine .map (.swap ..) fun key v w hv hw => ?_
    simp at hv hw
    obtain ⟨rfl, rfl⟩ | ⟨rfl, rfl⟩ := hv
    · obtain rfl : w = .int 1 := by simpa using hw
      exact .int 1
    · obtain rfl : w = .bool true := by simpa using hw
      exact .bool true
  have hcovered : ∀ n, covered (d n) = Entries.named [("gates", .list [gate n])] := fun n => by
    rw [covered_named]
    rfl
  have hcovered' : covered e = e := by
    rw [covered_named]
    rfl
  have heq : s = s' := hsame.2 (by
    rw [hcovered, hcovered']
    refine .map (.refl _) fun key v w hv hw => ?_
    simp at hv hw
    rw [hv.2, hw.2]
    exact .list rfl fun | 0, _, _ => hgates)
  have hne : s'' ≠ t := by
    rw [Ne, hother, hcovered, hcovered]
    intro h
    obtain ⟨_, hlist, -, items⟩ := (h.at_key "gates" (.head _) (.head _)).of_list
    cases hlist
    cases (items 0 (by simp) (by simp)).at_key "checksum" (.head _) (.head _)
  subst heq
  exact ⟨s, t, hs, hs', ht, Except.ok.inj (hs''.symm.trans hs) ▸ hne⟩

end Checksum

end GateRollout
