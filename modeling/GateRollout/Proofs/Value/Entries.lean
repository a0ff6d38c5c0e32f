import GateRollout.Value.Basic

/-!
# Entries under texts

What is found under a text in the entries of a map.  A text is the same key as itself alone, so that
looking for it as a text and looking for it as a key of any kind come to the same.
-/

namespace GateRollout

namespace Value

theorem asText?_eq_some {v : Value} {s : String} : v.asText? = some s ↔ v = .str s := by
  cases v <;> simp [asText?]

theorem isText_iff {v : Value} {s : String} : v.isText s = true ↔ v = .str s := by
  simp [isText, asText?_eq_some]

theorem fraction?_str (s : String) : (Value.str s).fraction? = none := rfl

/-- Only a text is the same key as a text: no other data is, whatever number it may be. -/
theorem sameKey_str (v : Value) (s : String) : v.sameKey (.str s) = v.isText s := by
  cases v with
  | str t => simp [sameKey, isText, asText?]
  | _ => simp [sameKey, fraction?_str, isText, asText?, infinity?]

end Value

namespace Entries

variable (xs ys : Entries) (key : String)

theorem lookup_str : lookup xs (.str key) = valueAt? xs key := by
  simp only [lookup, valueAt?, Value.sameKey_str]

@[simp] theorem valueAt?_nil : valueAt? [] key = none := rfl

theorem valueAt?_cons (e : Value × Value) :
    valueAt? (e :: xs) key = if e.1.isText key then some e.2 else valueAt? xs key := by
  rw [valueAt?, List.find?_cons]
  cases e.1.isText key <;> rfl

/-- The first of two names that is there decides. -/
theorem findSome?_valueAt? (name other : String) :
    [name, other].findSome? (valueAt? xs) = (valueAt? xs name).or (valueAt? xs other) := by
  cases hname : valueAt? xs name <;> cases hother : valueAt? xs other <;>
    simp [List.findSome?, hname, hother]

theorem valueAt?_append : valueAt? (xs ++ ys) key = (valueAt? xs key).or (valueAt? ys key) := by
  simp only [valueAt?, List.find?_append, Option.map_or]

/-- Giving a value to every entry under a text changes what is found under that text, where there is
such an entry, and under no other. -/
theorem valueAt?_map (name : String) (v : Value) :
    valueAt? (xs.map fun e => if e.1.isText name then (e.1, v) else e) key =
      if key = name then (valueAt? xs name).map fun _ => v else valueAt? xs key := by
  induction xs with
  | nil => simp
  | cons e xs ih =>
    rw [List.map_cons, valueAt?_cons, valueAt?_cons, valueAt?_cons, ih]
    by_cases hkey : key = name
    · subst hkey
      by_cases hname : e.1.isText key = true <;> simp [hname]
    · by_cases hname : e.1.isText name = true
      · have hne : e.1.isText key = false := by
          rw [Value.isText_iff] at hname
          simp [hname, Value.isText, Value.asText?, Ne.symm hkey]
        simp [hname, hne, hkey]
      · simp [hname, hkey]

/-- Putting a value under a text changes what is found under that text, and under no other. -/
theorem valueAt?_put (name : String) (v : Value) :
    valueAt? (put xs name v) key = if key = name then some v else valueAt? xs key := by
  rw [put]
  by_cases hname : hasKey xs name = true
  · obtain ⟨w, hw⟩ := Option.isSome_iff_exists.1 hname
    rw [if_pos hname, valueAt?_map, hw]
    rfl
  · have hnone : valueAt? xs name = none := by simpa [hasKey] using hname
    rw [if_neg hname, valueAt?_append, valueAt?_cons, valueAt?_nil]
    by_cases hkey : key = name
    · simp [hkey, hnone, Value.isText, Value.asText?]
    · simp [Value.isText, Value.asText?, hkey, Ne.symm hkey]

theorem valueAt_put_self (name : String) (v : Value) : valueAt (put xs name v) name = v := by
  rw [valueAt, valueAt?_put, if_pos rfl, Option.getD_some]

variable {key} in
theorem valueAt?_put_of_ne {name : String} (h : key ≠ name) (v : Value) :
    valueAt? (put xs name v) key = valueAt? xs key := by
  rw [valueAt?_put, if_neg h]

variable {key} in
theorem valueAt_put_of_ne {name : String} (h : key ≠ name) (v : Value) :
    valueAt (put xs name v) key = valueAt xs key := by
  rw [valueAt, valueAt, valueAt?_put_of_ne xs h]

end Entries

end GateRollout
