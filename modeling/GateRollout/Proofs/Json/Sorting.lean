import GateRollout.Proofs.Journal
import GateRollout.Proofs.Value.Entries
import GateRollout.Json.Printer

/-!
# Entries in order of their keys

A layout that sorts keys prints a map only where its keys have a common order.  Texts have one.
-/

namespace GateRollout.Json

/-- A fault of writing JSON: data of a kind that is not written, or an integer of too many digits. -/
def IsWriteFault (f : Fault) : Prop := f.kind = .wrongType ∨ f = .unwritten

theorem isWriteFault_toFault (f : WriteFault) : IsWriteFault f.toFault := by
  cases f with
  | unwritten => exact .inr rfl
  | kind _ | key _ | order _ _ => exact .inl rfl

theorem insertByKey_ok {e : Value × Value} {es : Entries} (he : e.1.asText?.isSome = true)
    (hes : ∀ f ∈ es, f.1.asText?.isSome = true) : ∃ out, insertByKey e es = .ok out ∧ out.Perm (e :: es) := by
  induction es with
  | nil => exact ⟨[e], rfl, .refl _⟩
  | cons f es ih =>
    rw [List.forall_mem_cons] at hes
    obtain ⟨out, hout, hperm⟩ := ih hes.2
    obtain ⟨s, hs⟩ := Option.isSome_iff_exists.1 he
    obtain ⟨t, ht⟩ := Option.isSome_iff_exists.1 hes.1
    have hless : keyLess f.1 e.1 = .ok (decide (t < s)) := by
      rw [Value.asText?_eq_some.1 hs, Value.asText?_eq_some.1 ht, keyLess]
    rw [insertByKey, hless]
    by_cases hts : t < s
    · refine ⟨f :: out, ?_, (hperm.cons f).trans (.swap e f es)⟩
      simp only [hts, decide_true, hout]
      rfl
    · refine ⟨e :: f :: es, ?_, .refl _⟩
      simp only [hts, decide_false]
      rfl

/-- Entries under texts can be sorted, which changes their order alone. -/
theorem sortByKey_ok {es : Entries} (hes : ∀ f ∈ es, f.1.asText?.isSome = true) :
    ∃ out, sortByKey es = .ok out ∧ out.Perm es := by
  induction es with
  | nil => exact ⟨[], rfl, .refl _⟩
  | cons e es ih =>
    rw [List.forall_mem_cons] at hes
    obtain ⟨rest, hrest, hperm⟩ := ih hes.2
    obtain ⟨out, hout, hperm'⟩ := insertByKey_ok hes.1 fun f hf => hes.2 f (hperm.mem_iff.1 hf)
    exact ⟨out, by rw [sortByKey, hrest]; exact hout, hperm'.trans (hperm.cons e)⟩

theorem inKeyOrder_perm {es : Entries} (hes : ∀ f ∈ es, f.1.asText?.isSome = true) :
    (inKeyOrder es).Perm es := by
  obtain ⟨out, hout, hperm⟩ := sortByKey_ok hes
  rw [inKeyOrder, hout]
  exact hperm

theorem sortedMembers_eq (xs : List Value) : sortedMembers xs = xs.map sorted := by
  induction xs with
  | nil => rw [sortedMembers, List.map_nil]
  | cons x xs ih => rw [sortedMembers, ih, List.map_cons]

theorem sortedEntries_eq (es : Entries) : sortedEntries es = es.map fun e => (e.1, sorted e.2) := by
  induction es with
  | nil => rw [sortedEntries, List.map_nil]
  | cons e es ih => rw [sortedEntries, ih, List.map_cons]

variable {layout : Layout} {entries : Entries} {text : String}

/-- A map is printed when its entries are, and when its keys can be sorted where they have to be. -/
theorem print_map_eq_ok : print layout (.map entries) = .ok text ↔
    (layout.sortKeys = true → ∃ es, sortByKey entries = .ok es) ∧
    ∃ texts, printEntries layout entries = .ok texts ∧
      "\x7b" ++ layout.itemMark.intercalate texts ++ "\x7d" = text := by
  have hprint : (do return "\x7b" ++ layout.itemMark.intercalate (← printEntries layout entries) ++ "\x7d") =
      Except.ok text ↔ ∃ texts, printEntries layout entries = .ok texts ∧
        "\x7b" ++ layout.itemMark.intercalate texts ++ "\x7d" = text := by
    rw [bind_eq_ok]
    exact exists_congr fun texts => and_congr_right fun _ => ⟨Except.ok.inj, congrArg Except.ok⟩
  rw [print, ← hprint]
  cases layout.sortKeys with
  | false => exact ⟨fun h => ⟨nofun, h⟩, And.right⟩
  | true =>
    cases sortByKey entries with
    | error f => exact ⟨nofun, fun h => nomatch h.1 rfl⟩
    | ok es => exact ⟨fun h => ⟨fun _ => ⟨es, rfl⟩, h⟩, And.right⟩

end GateRollout.Json
