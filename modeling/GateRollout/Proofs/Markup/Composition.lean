import GateRollout.Proofs.Markup.Indentation

/-!
# Encodings are put together from encodings

A value that stands further in is written as it is written outside, with blanks before its lines.  A list
under a key is written as its parts are, one after the other, and so are maps that have no key in common.
-/

namespace GateRollout

/-! ## Maps put together -/

namespace Entries

variable {xs ys : Entries}

/-- The entries of two maps: those of the second are put into the first, one after the other. -/
def merge (xs ys : Entries) : Entries := ys.foldl (fun es e => es.insert e.1 e.2) xs

/-- No key of a map is there twice. -/
def KeysDiffer (xs : Entries) : Prop := xs.Pairwise fun e f => e.1.sameKey f.1 = false

/-- No key of one map is a key of the other. -/
def Apart (xs ys : Entries) : Prop := ∀ e ∈ xs, ∀ f ∈ ys, e.1.sameKey f.1 = false

instance : Decidable xs.KeysDiffer :=
  inferInstanceAs (Decidable (xs.Pairwise fun e f => e.1.sameKey f.1 = false))

instance : Decidable (xs.Apart ys) :=
  inferInstanceAs (Decidable (∀ e ∈ xs, ∀ f ∈ ys, e.1.sameKey f.1 = false))

theorem insert_of_new {key : Value} (h : ∀ e ∈ xs, e.1.sameKey key = false) (v : Value) :
    xs.insert key v = xs ++ [(key, v)] := by
  have hlookup : xs.lookup key = none := by
    rw [lookup, Option.map_eq_none_iff, List.find?_eq_none]
    exact fun e he => by simp [h e he]
  rw [insert, hlookup]
  rfl

/-- Entries under new keys come behind those that are there. -/
theorem merge_eq_append (hys : ys.KeysDiffer) (h : xs.Apart ys) : xs.merge ys = xs ++ ys := by
  induction ys generalizing xs with
  | nil => exact (List.append_nil xs).symm
  | cons f ys ih =>
    obtain ⟨hf, hys⟩ := List.pairwise_cons.1 hys
    have hinsert : xs.insert f.1 f.2 = xs ++ [f] :=
      insert_of_new (fun e he => h e he f List.mem_cons_self) f.2
    have hrest : (xs ++ [f]).Apart ys := by
      refine List.forall_mem_append.2 ⟨fun e he g hg => h e he g (List.mem_cons_of_mem _ hg), ?_⟩
      exact List.forall_mem_singleton.2 hf
    have hmerge : xs.merge (f :: ys) = (xs ++ [f]).merge ys := by
      rw [merge, List.foldl_cons, hinsert, merge]
    rw [hmerge, ih hys hrest, List.append_assoc, List.singleton_append]

end Entries

namespace Markup

/-! ## Pieces side by side -/

theorem map_render_append (r s : Except Fault (List Node)) (indent : Int) :
    (do return (← r) ++ (← s) : Except Fault (List Node)).map (render indent) =
      do return (← r.map (render indent)) ++ (← s.map (render indent)) := by
  cases r with
  | error e => rfl
  | ok ns =>
    cases s with
    | error e => rfl
    | ok ms => exact congrArg Except.ok (render_append indent ns ms)

theorem encode_entries (entries : Entries) (indent : Int) :
    encode (.map entries) indent =
      (written (entries.map fun e => (Place.under e.1).nodes e.2)).map (render indent) := by
  rw [encode, nodes, nodesOfEntries_eq]

/-- Entries one behind the other are written one behind the other. -/
theorem encode_map_append (xs ys : Entries) (indent : Int) :
    encode (.map (xs ++ ys)) indent =
      do return (← encode (.map xs) indent) ++ (← encode (.map ys) indent) := by
  simp only [encode_entries, List.map_append, written_append, map_render_append]

theorem encode_entry (key v : Value) (indent : Int) :
    encode (.map [(key, v)]) indent = ((Place.under key).nodes v).map (render indent) := by
  rw [encode_entries, List.map_singleton, written_cons]
  cases (Place.under key).nodes v with
  | error e => rfl
  | ok ns => exact congrArg (fun ms => Except.ok (render indent ms)) (List.append_nil ns)

/-- The items of a list or a tuple under a key are written one behind the other. -/
theorem encode_sequence_append {sequence : List Value → Value}
    (hsequence : sequence = .list ∨ sequence = .tuple) (key : Value) (xs ys : List Value) (indent : Int) :
    encode (.map [(key, sequence (xs ++ ys))]) indent =
      do return (← encode (.map [(key, sequence xs)]) indent) ++
        (← encode (.map [(key, sequence ys)]) indent) := by
  simp only [encode_entry]
  cases hname : nameOf key with
  | error e => simp only [Place.nodes, hname]; rfl
  | ok name =>
    have hnodes (items : List Value) :
        (Place.under key).nodes (sequence items) = written (items.map (Place.item key).nodes) := by
      rw [Place.nodes_under hname, ← elementsOfItems_eq hname]
      rcases hsequence with rfl | rfl <;> rw [elements]
    simp only [hnodes, List.map_append, written_append, map_render_append]

/-! ## The laws -/

/-- A value without line breaks is written at any depth as it is outside, with blanks before every line.  A
list under a key is written as its two parts are, one behind the other, and so are two maps that have no key
in common, once they are put together. -/
theorem encode_composes :
    (∀ v : Value, v.Everywhere IsUnbroken → v.Everywhere HasUnbrokenClass →
      ∀ n : Nat, encode v n = (encode v 0).map (indented (2 * n))) ∧
    (∀ (key : Value) (xs ys : List Value) (n : Int),
      encode (.map [(key, .list (xs ++ ys))]) n =
        do return (← encode (.map [(key, .list xs)]) n) ++ (← encode (.map [(key, .list ys)]) n)) ∧
    ∀ xs ys : Entries, ys.KeysDiffer → xs.Apart ys → ∀ n : Int,
      encode (.map (xs.merge ys)) n =
        do return (← encode (.map xs) n) ++ (← encode (.map ys) n) := by
  refine ⟨fun v h hclass n => encode_indented h hclass n,
    fun key xs ys n => encode_sequence_append (.inl rfl) key xs ys n, fun xs ys hys h n => ?_⟩
  rw [Entries.merge_eq_append hys h, encode_map_append]

/-- An element further in, a list of three items in two parts, and two maps. -/
theorem encode_composes_of_parts :
    let outer : Value := .map [(.str "outer", .list [.str "a<b", .object "Widget"])]
    let index : Entries := [(.str "index", .int 0)]
    let rest : Entries := [(.str "value", .null), (.str "port", .tuple [.bool true])]
    encode outer 3 = (encode outer 0).map (indented 6) ∧
      encode (.map [(.str "port", .list [.int 1, .int 2, .list []])]) 1 =
        (do return (← encode (.map [(.str "port", .list [.int 1])]) 1) ++
          (← encode (.map [(.str "port", .list [.int 2, .list []])]) 1)) ∧
      encode (.map (index.merge rest)) 2 =
        do return (← encode (.map index) 2) ++ (← encode (.map rest) 2) := by
  intro outer index rest
  have hdata : '\n' ∉ "a<b".toList := by decide
  have hclass : '\n' ∉ "Widget".toList := by decide
  have hkey : IsUnbroken outer := by
    rintro e (_ | ⟨_, ⟨⟩⟩) key ⟨⟩
    decide
  have hunbroken : outer.Everywhere IsUnbroken := by
    refine Value.everywhere_of_parts hkey (List.forall_mem_singleton.2 ?_)
    refine Value.everywhere_of_parts trivial ?_
    rintro w (_ | ⟨_, _ | ⟨_, ⟨⟩⟩⟩)
    · exact Value.everywhere_of_parts hdata nofun
    · exact Value.everywhere_of_parts trivial nofun
  have hclasses : outer.Everywhere HasUnbrokenClass := by
    refine Value.everywhere_of_parts trivial (List.forall_mem_singleton.2 ?_)
    refine Value.everywhere_of_parts trivial ?_
    rintro w (_ | ⟨_, _ | ⟨_, ⟨⟩⟩⟩)
    · exact Value.everywhere_of_parts trivial nofun
    · exact Value.everywhere_of_parts hclass nofun
  obtain ⟨hindent, hitems, hmaps⟩ := encode_composes
  exact ⟨hindent outer hunbroken hclasses 3, hitems (.str "port") [.int 1] [.int 2, .list []] 1,
    hmaps index rest (by decide) (by decide) 2⟩

/-- Where a class has a line break in its name, the rest of the name stands at the left, however far in
the value is. -/
theorem class_name_breaks_line : ¬∀ v : Value, v.Everywhere IsUnbroken →
    ∀ n : Nat, encode v n = (encode v 0).map (indented (2 * n)) := by
  intro h
  have hin : encode (.object "A\nB") (1 : Nat) = .ok "  <unsupported type=\"A\nB\"/>\n" :=
    congrArg Except.ok (by decide : render 1 [.mark (.unsupported "A\nB")] = _)
  have hout : (encode (.object "A\nB") 0).map (indented 2) =
      .ok "  <unsupported type=\"A\n  B\"/>\n" :=
    congrArg Except.ok (by decide +kernel : indented 2 (render 0 [.mark (.unsupported "A\nB")]) = _)
  have hobject : (Value.object "A\nB").Everywhere IsUnbroken := Value.everywhere_of_parts trivial nofun
  have heq := hin.symm.trans ((h _ hobject 1).trans hout)
  exact absurd (Except.ok.inj heq) (by decide)

end Markup

end GateRollout
