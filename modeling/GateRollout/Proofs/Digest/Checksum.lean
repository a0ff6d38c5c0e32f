import GateRollout.Proofs.Json.Sorting
import GateRollout.Proofs.Markup.Total
import GateRollout.Digest.Checksum

/-!
# Documents with a checksum

A checksum is taken of a text in which the keys of every map are in order.  Keys of different kinds may
have no order, a key may be no key of JSON at all, and an integer may be too long to be written.  Documents
with a text whose keys are texts have a checksum, whatever else they hold.
-/

namespace GateRollout

namespace Json

/-! ## Sorting -/

/-- Sorting keeps the keys of a value and its leaves. -/
theorem sorted_keeps {v : Value} (hkeys : v.hasTextKeys = true) (htext : v.hasText = true) :
    (sorted v).hasTextKeys = true ∧ (sorted v).hasText = true := by
  induction v using Value.parts_induction with
  | step v ih =>
    cases v with
    | list xs | tuple xs =>
      rw [Value.hasTextKeys, Value.itemsHaveTextKeys_iff] at hkeys
      rw [Value.hasText, Value.membersHaveText_iff] at htext
      rw [sorted, sortedMembers_eq, Value.hasTextKeys, Value.itemsHaveTextKeys_iff, Value.hasText,
        Value.membersHaveText_iff, List.forall_mem_map, List.forall_mem_map]
      exact ⟨fun x hx => (ih x hx (hkeys x hx) (htext x hx)).1,
        fun x hx => (ih x hx (hkeys x hx) (htext x hx)).2⟩
    | map es =>
      rw [Value.hasTextKeys, Value.entriesHaveTextKeys_iff] at hkeys
      rw [Value.hasText, Value.entriesHaveText_iff] at htext
      have hsorted : ∀ e ∈ es, (sorted e.2).hasTextKeys = true ∧ (sorted e.2).hasText = true := fun e he =>
        ih e.2 (List.mem_map_of_mem he) (hkeys e he).2 (htext e he).2
      have horder : (inKeyOrder (sortedEntries es)).Perm (es.map fun e => (e.1, sorted e.2)) := by
        rw [sortedEntries_eq]
        exact inKeyOrder_perm (List.forall_mem_map.2 fun e he => (hkeys e he).1)
      rw [sorted, Value.hasTextKeys, Value.entriesHaveTextKeys_iff, Value.hasText, Value.entriesHaveText_iff]
      simp only [horder.mem_iff, List.forall_mem_map]
      exact ⟨fun e he => ⟨(hkeys e he).1, (hsorted e he).1⟩, fun e he => ⟨(htext e he).1, (hsorted e he).2⟩⟩
    | _ => exact ⟨hkeys, htext⟩

/-! ## Printing -/

variable {layout : Layout}

theorem printMembers_ok_of_forall {xs : List Value} (h : ∀ x ∈ xs, ∃ s, print layout x = .ok s) :
    ∃ texts, printMembers layout xs = .ok texts := by
  induction xs with
  | nil => exact ⟨[], by rw [printMembers]⟩
  | cons x xs ih =>
    rw [List.forall_mem_cons] at h
    obtain ⟨s, hs⟩ := h.1
    obtain ⟨texts, ht⟩ := ih h.2
    exact ⟨s :: texts, by rw [printMembers, hs, ht]; rfl⟩

theorem printEntries_ok_of_forall {es : Entries}
    (h : ∀ e ∈ es, e.1.asText?.isSome = true ∧ ∃ s, print layout e.2 = .ok s) :
    ∃ texts, printEntries layout es = .ok texts := by
  induction es with
  | nil => exact ⟨[], by rw [printEntries]⟩
  | cons e es ih =>
    obtain ⟨k, v⟩ := e
    rw [List.forall_mem_cons] at h
    obtain ⟨t, ht⟩ := Option.isSome_iff_exists.1 h.1.1
    obtain rfl : k = .str t := Value.asText?_eq_some.1 ht
    obtain ⟨s, hs⟩ := h.1.2
    obtain ⟨texts, htexts⟩ := ih h.2
    exact ⟨_, by rw [printEntries, keyText, hs, htexts]; rfl⟩

theorem fallbackText_ok {v : Value} (h : v.hasText = true) : ∃ s, fallbackText v = .ok s := ⟨_, if_pos h⟩

/-- A value with a text whose keys are texts, at every depth, has a canonical text. -/
theorem print_canonical_ok {v : Value} (hkeys : v.hasTextKeys = true) (htext : v.hasText = true) :
    ∃ s, print .canonical v = .ok s := by
  induction v using Value.parts_induction with
  | step v ih =>
    have hparts : ∀ w ∈ v.parts, ∃ s, print .canonical w = .ok s := fun w hw =>
      ih w hw (Value.hasTextKeys_of_mem_parts hw hkeys) (Value.hasText_of_mem_parts hw htext)
    cases v with
    | list xs | tuple xs =>
      obtain ⟨texts, ht⟩ : ∃ texts, printMembers .canonical xs = .ok texts :=
        printMembers_ok_of_forall hparts
      exact ⟨_, by rw [print, ht]; rfl⟩
    | map es =>
      rw [Value.hasTextKeys, Value.entriesHaveTextKeys_iff] at hkeys
      obtain ⟨out, hout, -⟩ := sortByKey_ok fun e he => (hkeys e he).1
      obtain ⟨texts, ht⟩ := printEntries_ok_of_forall fun e he =>
        ⟨(hkeys e he).1, hparts e.2 (List.mem_map_of_mem he)⟩
      exact ⟨_, print_map_eq_ok.2 ⟨fun _ => ⟨out, hout⟩, texts, ht, rfl⟩⟩
    | int n => exact ⟨_, if_pos (Value.hasText_int ▸ htext)⟩
    | null | bool _ | float _ | str _ => exact ⟨_, by rw [print]⟩
    | _ =>
      -- what JSON lacks is written as its text
      obtain ⟨s, hs⟩ := fallbackText_ok htext
      exact ⟨stringText s, bind_eq_ok.2 ⟨s, hs, rfl⟩⟩

end Json

namespace Checksum

/-- A document has a checksum, or a fault of writing its text. -/
theorem ofDocument_cases (entries : Entries) :
    (∃ c, ofDocument (.map entries) = .ok c) ∨
    ∃ f, Json.IsWriteFault f ∧ ofDocument (.map entries) = .error (.fault f) := by
  rw [ofDocument]
  cases canonicalText entries with
  | ok s => exact .inl ⟨_, rfl⟩
  | error f => exact .inr ⟨f.toFault, Json.isWriteFault_toFault f, rfl⟩

/-- A document with a text whose keys are texts, at every depth, has a checksum. -/
theorem ofDocument_ok {entries : Entries} (hkeys : (Value.map entries).hasTextKeys = true)
    (htext : (Value.map entries).hasText = true) : ∃ c, ofDocument (.map entries) = .ok c := by
  have hkeys' : (Value.map (covered entries)).hasTextKeys = true := by
    rw [Value.hasTextKeys, Value.entriesHaveTextKeys_iff] at hkeys ⊢
    exact fun e he => hkeys e (List.mem_filter.1 he).1
  have htext' : (Value.map (covered entries)).hasText = true := by
    rw [Value.hasText, Value.entriesHaveText_iff] at htext ⊢
    exact fun e he => htext e (List.mem_filter.1 he).1
  obtain ⟨hsorted, hsorted'⟩ := Json.sorted_keeps hkeys' htext'
  obtain ⟨s, hs⟩ := Json.print_canonical_ok hsorted hsorted'
  have hcanonical : canonicalText entries = .ok s := hs
  exact ⟨_, by rw [ofDocument, hcanonical]⟩

end Checksum

end GateRollout
