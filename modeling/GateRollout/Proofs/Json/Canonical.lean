import GateRollout.Proofs.Json.ReadBack
import Mathlib.Data.List.Sort

/-!
# Canonical texts

The canonical text of JSON data is that of the data with the keys of every map in ascending order.  Data has
one order of this kind whatever order its keys come in, so the text is the same exactly for data that is the
same up to the order of keys.
-/

namespace GateRollout

namespace Json

variable {fields : List (String × Value)}

/-- The named values in ascending order of their names. -/
def byName (fields : List (String × Value)) : List (String × Value) :=
  fields.insertionSort fun f g => f.1 ≤ g.1

theorem insertByKey_named (f : String × Value) : ∀ fields : List (String × Value),
    insertByKey (.str f.1, f.2) (Entries.named fields) =
      .ok (Entries.named (fields.orderedInsert (fun f g => f.1 ≤ g.1) f))
  | [] => rfl
  | g :: fields => by
    change insertByKey (.str f.1, f.2) ((.str g.1, g.2) :: Entries.named fields) = _
    have hless : keyLess (.str g.1) (.str f.1) = .ok (decide (g.1 < f.1)) := rfl
    rw [insertByKey, hless, insertByKey_named f fields, List.orderedInsert]
    by_cases h : g.1 < f.1
    · have hle : ¬f.1 ≤ g.1 := fun hle => hle h
      simp only [bind, Except.bind, h, decide_true, if_true, if_neg hle]
      rfl
    · have hle : f.1 ≤ g.1 := h
      simp only [bind, Except.bind, h, decide_false, if_pos hle]
      rfl

theorem sortByKey_named : ∀ fields : List (String × Value),
    sortByKey (Entries.named fields) = .ok (Entries.named (byName fields))
  | [] => rfl
  | f :: fields => by
    change sortByKey ((.str f.1, f.2) :: Entries.named fields) = _
    rw [sortByKey, sortByKey_named fields]
    exact insertByKey_named f (byName fields)

theorem byName_perm (fields : List (String × Value)) : (byName fields).Perm fields :=
  List.perm_insertionSort ..

/-- The names stand in strictly ascending order, as no two of them are the same. -/
theorem pairwise_byName (h : (fields.map Prod.fst).Nodup) :
    (byName fields).Pairwise fun f g => f.1 < g.1 := by
  have hsorted : (byName fields).Pairwise fun f g => f.1 ≤ g.1 := by
    have : Std.Total fun f g : String × Value => f.1 ≤ g.1 := ⟨fun f g => Std.le_total⟩
    have : IsTrans (String × Value) fun f g => f.1 ≤ g.1 := ⟨fun f g h => Std.le_trans⟩
    exact List.pairwise_insertionSort _ fields
  have hnodup : ((byName fields).map Prod.fst).Nodup := ((byName_perm fields).map _).nodup_iff.2 h
  rw [List.Nodup, List.pairwise_map] at hnodup
  exact (hsorted.and hnodup).imp fun hab => Std.lt_of_le_of_ne hab.1 hab.2

/-- Named values have one order by their names, whatever order they come in. -/
theorem byName_eq_of_perm {fields' : List (String × Value)} (h : (fields.map Prod.fst).Nodup)
    (hperm : fields.Perm fields') : byName fields = byName fields' := by
  have h' : (fields'.map Prod.fst).Nodup := (hperm.map _).nodup_iff.1 h
  refine List.Perm.eq_of_pairwise (fun f g _ _ hfg hgf => absurd hfg (Std.Asymm.asymm _ _ hgf))
    (pairwise_byName h) (pairwise_byName h') ?_
  exact (byName_perm fields).trans (hperm.trans (byName_perm fields').symm)

/-! ## Values in order -/

/-- Named values, each with its keys in order. -/
def sortedFields (fields : List (String × Value)) : List (String × Value) :=
  fields.map fun f => (f.1, sorted f.2)

theorem map_fst_sortedFields (fields : List (String × Value)) :
    (sortedFields fields).map Prod.fst = fields.map Prod.fst := by
  rw [sortedFields, List.map_map]
  rfl

theorem mem_sortedFields {f : String × Value} :
    f ∈ sortedFields fields ↔ ∃ v, (f.1, v) ∈ fields ∧ sorted v = f.2 := by
  rw [sortedFields, List.mem_map]
  constructor
  · rintro ⟨g, hg, rfl⟩
    exact ⟨g.2, hg, rfl⟩
  · rintro ⟨v, hv, hf⟩
    exact ⟨_, hv, by rw [hf]⟩

theorem sortedEntries_named (fields : List (String × Value)) :
    sortedEntries (Entries.named fields) = Entries.named (sortedFields fields) := by
  rw [sortedEntries_eq, Entries.named, Entries.named, sortedFields, List.map_map, List.map_map]
  rfl

theorem sorted_list (xs : List Value) : sorted (.list xs) = .list (xs.map sorted) := by
  rw [sorted, sortedMembers_eq]

theorem sorted_map (fields : List (String × Value)) :
    sorted (.map (Entries.named fields)) = .map (Entries.named (byName (sortedFields fields))) := by
  rw [sorted, sortedEntries_named, inKeyOrder, sortByKey_named]
  rfl

theorem mem_byName {f : String × Value} : f ∈ byName fields ↔ f ∈ fields := (byName_perm fields).mem_iff

/-- Putting keys in order keeps a value up to the order of its keys. -/
theorem rearranged_sorted {v : Value} (h : v.IsJson) : v.Rearranged (sorted v) := by
  induction h with
  | null => exact .null
  | bool b => exact .bool b
  | int => exact .int _
  | str s => exact .str s
  | @list xs items ih =>
    rw [sorted_list]
    refine .list (List.length_map _).symm fun i hi hi' => ?_
    rw [List.getElem_map]
    exact ih _ (List.getElem_mem hi)
  | @map fields distinct values ih =>
    rw [sorted_map]
    refine .map ?_ fun key v w hv hw => ?_
    · rw [← map_fst_sortedFields]
      exact ((byName_perm _).map Prod.fst).symm
    · obtain ⟨u, hu, rfl⟩ := mem_sortedFields.1 (mem_byName.1 hw)
      cases List.inj_on_of_nodup_map distinct hv hu rfl
      exact ih _ hv

theorem isJson_sorted {v : Value} (h : v.IsJson) : (sorted v).IsJson := by
  induction h with
  | null => exact .null
  | bool b => exact .bool b
  | int digits => exact .int digits
  | str s => exact .str s
  | @list xs items ih =>
    rw [sorted_list, Value.isJson_list, List.forall_mem_map]
    exact ih
  | @map fields distinct values ih =>
    rw [sorted_map, Value.isJson_map]
    constructor
    · rw [((byName_perm _).map Prod.fst).nodup_iff, map_fst_sortedFields]
      exact distinct
    · intro f hf
      obtain ⟨v, hv, hf⟩ := mem_sortedFields.1 (mem_byName.1 hf)
      exact hf ▸ ih _ hv

/-- Values that are the same up to the order of their keys are the same once the keys are in order. -/
theorem sorted_eq_of_rearranged {v w : Value} (hv : v.IsJson) (hw : w.IsJson) (h : v.Rearranged w) :
    sorted v = sorted w := by
  induction h with
  | null | bool | int | str => rfl
  | list length items ih =>
    rw [Value.isJson_list] at hv hw
    rw [sorted_list, sorted_list]
    refine congrArg Value.list (List.ext_getElem (by simpa using length) fun i hi hi' => ?_)
    rw [List.length_map] at hi hi'
    rw [List.getElem_map, List.getElem_map]
    exact ih i hi hi' (hv _ (List.getElem_mem hi)) (hw _ (List.getElem_mem hi'))
  | @map fields fields' keys values ih =>
    obtain ⟨hdistinct, hv⟩ := Value.isJson_map.1 hv
    obtain ⟨hdistinct', hw⟩ := Value.isJson_map.1 hw
    have hnodup : ((sortedFields fields).map Prod.fst).Nodup := by rwa [map_fst_sortedFields]
    -- every field of the one has its counterpart in the other, which has as many
    have hsubset : sortedFields fields ⊆ sortedFields fields' := by
      rintro ⟨key, _⟩ hf
      obtain ⟨v, hkey, rfl⟩ := mem_sortedFields.1 hf
      obtain ⟨⟨_, w⟩, hkey', rfl⟩ := List.mem_map.1 (keys.mem_iff.1 (List.mem_map_of_mem hkey))
      exact mem_sortedFields.2 ⟨w, hkey', (ih _ v w hkey hkey' (hv _ hkey) (hw _ hkey')).symm⟩
    have hlength : (sortedFields fields').length ≤ (sortedFields fields).length := by
      simpa [sortedFields] using keys.length_eq.ge
    have hperm : (sortedFields fields).Perm (sortedFields fields') :=
      (List.subperm_of_subset (.of_map _ hnodup) hsubset).perm_of_length_le hlength
    rw [sorted_map, sorted_map, byName_eq_of_perm hnodup hperm]

theorem sorted_eq_iff {v w : Value} (hv : v.IsJson) (hw : w.IsJson) :
    sorted v = sorted w ↔ v.Rearranged w := by
  constructor
  · intro h
    exact (rearranged_sorted hv).trans (h ▸ (rearranged_sorted hw).symm)
  · exact sorted_eq_of_rearranged hv hw

/-- The canonical text of a value is read back as the value with its keys in order. -/
theorem write_canonical {v : Value} (h : v.IsJson) :
    ∃ text, write .canonical v = .ok text ∧ parse text = .ok (sorted v) := by
  obtain ⟨text, htext, hback⟩ := print_readsBack Layout.isReadable_canonical (isJson_sorted h)
  exact ⟨text, htext, parse_of_readsBack hback⟩

end Json

end GateRollout
