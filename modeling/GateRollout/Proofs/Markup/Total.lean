import GateRollout.Proofs.Markup.Nodes
import GateRollout.Proofs.Value.Written

/-!
# The encoder writes all data under texts

The only data that the encoder refuses is a map with a key that is no text, and an integer that has none.
-/

namespace GateRollout

mutual

/-- Whether every key of every map within a value is a text. -/
def Value.hasTextKeys : Value → Bool
  | .map entries => Value.entriesHaveTextKeys entries
  | .list items => Value.itemsHaveTextKeys items
  | .tuple items => Value.itemsHaveTextKeys items
  | _ => true

/-- Whether every key of every map within some values is a text. -/
def Value.itemsHaveTextKeys : List Value → Bool
  | [] => true
  | v :: rest => v.hasTextKeys && Value.itemsHaveTextKeys rest

/-- Whether every key of some entries and of every map within their values is a text. -/
def Value.entriesHaveTextKeys : List (Value × Value) → Bool
  | [] => true
  | (key, v) :: rest => key.asText?.isSome && v.hasTextKeys && Value.entriesHaveTextKeys rest

end

namespace Value

theorem itemsHaveTextKeys_iff (items : List Value) :
    itemsHaveTextKeys items = true ↔ ∀ v ∈ items, v.hasTextKeys = true := by
  induction items with
  | nil => simp [itemsHaveTextKeys]
  | cons v rest ih => simp [itemsHaveTextKeys, ih]

theorem entriesHaveTextKeys_iff (entries : List (Value × Value)) :
    entriesHaveTextKeys entries = true ↔
      ∀ e ∈ entries, e.1.asText?.isSome = true ∧ e.2.hasTextKeys = true := by
  induction entries with
  | nil => simp [entriesHaveTextKeys]
  | cons e rest ih => simp [entriesHaveTextKeys, ih, and_assoc]

theorem hasTextKeys_of_mem_parts {v w : Value} (h : w ∈ v.parts) (hv : v.hasTextKeys = true) :
    w.hasTextKeys = true := by
  cases v with
  | list items | tuple items =>
    rw [hasTextKeys, itemsHaveTextKeys_iff] at hv
    exact hv w h
  | map entries =>
    rw [hasTextKeys, entriesHaveTextKeys_iff] at hv
    obtain ⟨e, he, rfl⟩ := List.mem_map.1 h
    exact (hv e he).2
  | _ => cases h

theorem hasTextKeys_of_within {u v : Value} (h : u.Within v) (hv : v.hasTextKeys = true) :
    u.hasTextKeys = true := by
  induction h with
  | self => exact hv
  | part hmem _ ih => exact ih (hasTextKeys_of_mem_parts hmem hv)

theorem hasText_of_mem_parts {v w : Value} (h : w ∈ v.parts) (hv : v.hasText = true) : w.hasText = true := by
  cases v with
  | list items | tuple items =>
    rw [hasText, membersHaveText_iff] at hv
    exact hv w h
  | map entries =>
    rw [hasText, entriesHaveText_iff] at hv
    obtain ⟨e, he, rfl⟩ := List.mem_map.1 h
    exact (hv e he).2
  | _ => cases h

theorem hasText_of_within {u v : Value} (h : u.Within v) (hv : v.hasText = true) : u.hasText = true := by
  induction h with
  | self => exact hv
  | part hmem _ ih => exact ih (hasText_of_mem_parts hmem hv)

end Value

namespace Markup

/-- A value with a text whose keys are texts, at every depth, is encoded. -/
theorem encode_ok {v : Value} (hkeys : v.hasTextKeys = true) (htext : v.hasText = true) (indent : Int) :
    ∃ text, encode v indent = .ok text := by
  have hallows : v.Everywhere (Allows (fun _ => False) (fun _ => True) (fun _ => True) fun _ => True) := by
    intro u hu
    refine ⟨?_, fun _ hu' => ?_, trivial, fun _ => trivial, fun _ _ => trivial⟩
    · rintro entries rfl e he
      have hkeys := Value.hasTextKeys_of_within hu hkeys
      rw [Value.hasTextKeys, Value.entriesHaveTextKeys_iff] at hkeys
      obtain ⟨s, hs⟩ := Option.isSome_iff_exists.1 (hkeys e he).1
      rw [Value.asText?_eq_some.1 hs]
      trivial
    · rw [Value.hasText_of_within hu htext] at hu'
      cases hu'
  have hgives := gives_everywhere (fun _ _ => trivial) hallows .alone trivial
  change Gives _ _ _ _ (nodes v) at hgives
  rw [encode]
  cases hns : nodes v with
  | ok ns => exact ⟨render indent ns, rfl⟩
  | error e =>
    rw [hns] at hgives
    exact hgives.elim

end Markup

end GateRollout
