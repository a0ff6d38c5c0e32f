import GateRollout.Proofs.Value.Entries
import GateRollout.Proofs.Text.Numeral
import Mathlib.Data.List.Basic

/-!
# JSON data

The data that JSON holds without loss: nothing, truth values, integers of bounded length, texts, lists, and
maps under distinct texts.  Such data may be the same up to the order of the keys of its maps.
-/

namespace GateRollout

/-- The entries under some texts. -/
def Entries.named (fields : List (String × Value)) : Entries := fields.map fun f => (.str f.1, f.2)

theorem Entries.valueAt?_named (fields : List (String × Value)) (key : String) :
    valueAt? (named fields) key = (fields.find? fun f => f.1 == key).map Prod.snd := by
  induction fields with
  | nil => rfl
  | cons f fields ih =>
    rw [named, List.map_cons, valueAt?_cons, List.find?_cons]
    cases h : f.1 == key with
    | true => simp [Value.isText, Value.asText?, h]
    | false =>
      rw [← named, ih]
      simp [Value.isText, Value.asText?, h]

theorem Entries.hasKey_named (fields : List (String × Value)) (key : String) :
    hasKey (named fields) key = true ↔ key ∈ fields.map Prod.fst := by
  rw [hasKey, valueAt?_named, Option.isSome_map, List.find?_isSome, List.mem_map]
  simp only [beq_iff_eq]

/-- Under a text that is not there, a value is put at the end. -/
theorem Entries.put_named {fields : List (String × Value)} {key : String} (h : key ∉ fields.map Prod.fst)
    (v : Value) : put (named fields) key v = named (fields ++ [(key, v)]) := by
  rw [put, if_neg (mt (hasKey_named fields key).1 h), named, named, List.map_append]
  rfl

/-- Data that JSON holds without loss. -/
inductive Value.IsJson : Value → Prop
  | null : IsJson .null
  | bool (b : Bool) : IsJson (.bool b)
  | int {n : Int} (digits : Text.numeralLength n ≤ Text.maxNumeralDigits) : IsJson (.int n)
  | str (s : String) : IsJson (.str s)
  | list {xs : List Value} (items : ∀ x ∈ xs, IsJson x) : IsJson (.list xs)
  | map {fields : List (String × Value)} (distinct : (fields.map Prod.fst).Nodup)
      (values : ∀ f ∈ fields, IsJson f.2) : IsJson (.map (Entries.named fields))

theorem Entries.named_injective {fields fields' : List (String × Value)} (h : named fields = named fields') :
    fields = fields' := by
  refine List.map_injective_iff.2 ?_ h
  rintro ⟨k, v⟩ ⟨l, w⟩ heq
  obtain ⟨hk, hv⟩ := Prod.mk.inj heq
  exact Prod.ext (Value.str.inj hk) hv

namespace Value

theorem isJson_list {xs : List Value} : (Value.list xs).IsJson ↔ ∀ x ∈ xs, x.IsJson := by
  constructor
  · intro h
    cases h with
    | list items => exact items
  · exact .list

theorem isJson_map {fields : List (String × Value)} : (Value.map (Entries.named fields)).IsJson ↔
    (fields.map Prod.fst).Nodup ∧ ∀ f ∈ fields, f.2.IsJson := by
  constructor
  · intro h
    generalize hv : Value.map (Entries.named fields) = v at h
    cases h with
    | map distinct values =>
      obtain rfl := Entries.named_injective (Value.map.inj hv)
      exact ⟨distinct, values⟩
    | _ => cases hv
  · rintro ⟨distinct, values⟩
    exact .map distinct values

/-- The keys of JSON data are texts. -/
theorem IsJson.eq_named {entries : Entries} (h : (Value.map entries).IsJson) :
    ∃ fields, entries = Entries.named fields := by
  cases h with
  | map => exact ⟨_, rfl⟩

/-! ## Up to the order of keys -/

/-- Two values are the same up to the order of keys at every depth. -/
inductive Rearranged : Value → Value → Prop
  | null : Rearranged .null .null
  | bool (b : Bool) : Rearranged (.bool b) (.bool b)
  | int (n : Int) : Rearranged (.int n) (.int n)
  | str (s : String) : Rearranged (.str s) (.str s)
  | list {xs ys : List Value} (length : xs.length = ys.length)
      (items : ∀ (i : Nat) (hi : i < xs.length) (hi' : i < ys.length), Rearranged xs[i] ys[i]) :
      Rearranged (.list xs) (.list ys)
  | map {fields fields' : List (String × Value)} (keys : (fields.map Prod.fst).Perm (fields'.map Prod.fst))
      (values : ∀ key v w, (key, v) ∈ fields → (key, w) ∈ fields' → Rearranged v w) :
      Rearranged (.map (Entries.named fields)) (.map (Entries.named fields'))

namespace Rearranged

variable {u v w : Value}

theorem of_list {xs : List Value} (h : (Value.list xs).Rearranged w) :
    ∃ ys, w = .list ys ∧ xs.length = ys.length ∧
      ∀ (i : Nat) (hi : i < xs.length) (hi' : i < ys.length), xs[i].Rearranged ys[i] := by
  cases h with
  | list length items => exact ⟨_, rfl, length, items⟩

theorem of_map {fields : List (String × Value)} (h : (Value.map (Entries.named fields)).Rearranged w) :
    ∃ fields', w = .map (Entries.named fields') ∧ (fields.map Prod.fst).Perm (fields'.map Prod.fst) ∧
      ∀ key v w, (key, v) ∈ fields → (key, w) ∈ fields' → Rearranged v w := by
  generalize hv : Value.map (Entries.named fields) = v at h
  cases h with
  | map keys values =>
    obtain rfl := Entries.named_injective (Value.map.inj hv)
    exact ⟨_, rfl, keys, values⟩
  | _ => cases hv

theorem at_key {fields fields' : List (String × Value)}
    (h : (Value.map (Entries.named fields)).Rearranged (.map (Entries.named fields'))) (key : String)
    (hv : (key, v) ∈ fields) (hw : (key, w) ∈ fields') : v.Rearranged w := by
  obtain ⟨_, hfields, -, values⟩ := h.of_map
  obtain rfl := Entries.named_injective (Value.map.inj hfields)
  exact values key v w hv hw

theorem symm (h : v.Rearranged w) : w.Rearranged v := by
  induction h with
  | null => exact .null
  | bool b => exact .bool b
  | int n => exact .int n
  | str s => exact .str s
  | list length items ih => exact .list length.symm fun i hi hi' => ih i hi' hi
  | map keys values ih => exact .map keys.symm fun key v w hv hw => ih key w v hw hv

theorem trans (h : u.Rearranged v) (h' : v.Rearranged w) : u.Rearranged w := by
  induction h generalizing w with
  | null | bool b | int n | str s => exact h'
  | list length items ih =>
    obtain ⟨zs, rfl, length', items'⟩ := h'.of_list
    exact .list (length.trans length') fun i hi hi' =>
      ih i hi (length ▸ hi) (items' i (length ▸ hi) hi')
  | @map fields fields' keys values ih =>
    obtain ⟨fields'', rfl, keys', values'⟩ := h'.of_map
    refine .map (keys.trans keys') fun key u w hu hw => ?_
    obtain ⟨⟨_, v⟩, hv, rfl⟩ := List.mem_map.1 (keys.mem_iff.1 (List.mem_map_of_mem hu))
    exact ih _ u v hu hv (values' _ v w hv hw)

end Rearranged

end Value

end GateRollout
