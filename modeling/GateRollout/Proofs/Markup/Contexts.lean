import GateRollout.Proofs.Journal
import GateRollout.Markup.Encoder

/-!
# Values in their places

The way in which a value is written depends on its place: alone, under a key, as an item of a list under
a key, or as a leaf of a gate control entry.  Whatever stands around a value, its own nodes stand in one
piece among the nodes of the whole, at one depth, and the others are there whatever the value is.
-/

namespace GateRollout.Markup

/-! ## Pieces of markup -/

/-- Nodes are put among others, all at one depth. -/
def IsAround (f : List Node → List Node) : Prop :=
  ∃ depth : Int, ∀ indent, ∃ before after, ∀ ns,
    render indent (f ns) = before ++ render (indent + depth) ns ++ after

theorem linesOf_append (indent : Int) (ns ms : List Node) :
    linesOf indent (ns ++ ms) = linesOf indent ns ++ linesOf indent ms := by
  induction ns with
  | nil => rfl
  | cons n ns ih => rw [List.cons_append, linesOf, linesOf, ih, List.append_assoc]

theorem render_append (indent : Int) (ns ms : List Node) :
    render indent (ns ++ ms) = render indent ns ++ render indent ms := by
  rw [render, linesOf_append, String.join_append, render, render]

theorem isAround_id : IsAround id :=
  ⟨0, fun indent => ⟨"", "", fun ns => by simp⟩⟩

theorem isAround_beside (a b : List Node) : IsAround fun ns => a ++ (ns ++ b) :=
  ⟨0, fun indent => ⟨render indent a, render indent b, fun ns => by
    rw [render_append, render_append, Int.add_zero, String.append_assoc]⟩⟩

theorem isAround_branch (name : Name) : IsAround fun ns => [.branch name ns] := by
  refine ⟨1, fun indent => ⟨line indent (openTag name), line indent (closeTag name), fun ns => ?_⟩⟩
  rw [render, linesOf, Node.lines, linesOf, List.append_nil, String.join_cons, String.join_append,
    String.join_cons, String.join_nil, String.append_empty, render, String.append_assoc]

theorem IsAround.comp {f g : List Node → List Node} (hf : IsAround f) (hg : IsAround g) :
    IsAround (f ∘ g) := by
  obtain ⟨depth, hf⟩ := hf
  obtain ⟨depth', hg⟩ := hg
  refine ⟨depth + depth', fun indent => ?_⟩
  obtain ⟨before, after, hf⟩ := hf indent
  obtain ⟨before', after', hg⟩ := hg (indent + depth)
  refine ⟨before ++ before', after' ++ after, fun ns => ?_⟩
  simp only [Function.comp_apply, hf, hg, String.append_assoc, Int.add_assoc]

theorem map_comp (r : Except Fault (List Node)) (f g : List Node → List Node) :
    (r.map f).map g = r.map (g ∘ f) := by
  cases r <;> rfl

/-- Pieces of markup, one after the other. -/
def written (pieces : List (Except Fault (List Node))) : Except Fault (List Node) := do
  return (← pieces.mapM id).flatten

theorem written_append (pieces pieces' : List (Except Fault (List Node))) :
    written (pieces ++ pieces') = do return (← written pieces) ++ (← written pieces') := by
  rw [written, written, written, List.mapM_append]
  cases pieces.mapM id with
  | error e => rfl
  | ok nss =>
    cases pieces'.mapM id with
    | error e => rfl
    | ok nss' => exact congrArg Except.ok List.flatten_append

theorem written_cons (piece : Except Fault (List Node)) (pieces : List (Except Fault (List Node))) :
    written (piece :: pieces) = do return (← piece) ++ (← written pieces) := by
  rw [written, written, List.mapM_cons]
  cases piece with
  | error e => rfl
  | ok ns =>
    cases pieces.mapM id with
    | error e => rfl
    | ok nss => rfl

/-- Among pieces that are written, each stands by itself. -/
theorem written_around {α : Type} (piece : α → Except Fault (List Node)) {before after : List α} {a : α}
    {ns : List Node} (h : written ((before ++ a :: after).map piece) = .ok ns) :
    ∃ f, IsAround f ∧ (∀ a, written ((before ++ a :: after).map piece) = (piece a).map f) ∧
      written ((before ++ after).map piece) = .ok (f []) := by
  simp only [List.map_append, List.map_cons, written_append, written_cons] at h ⊢
  obtain ⟨first, hfirst, h⟩ := bind_eq_ok.1 h
  obtain ⟨_, hrest, -⟩ := bind_eq_ok.1 h
  obtain ⟨_, -, hrest⟩ := bind_eq_ok.1 hrest
  obtain ⟨last, hlast, -⟩ := bind_eq_ok.1 hrest
  refine ⟨_, isAround_beside first last, fun a => ?_, ?_⟩
  · rw [hfirst, hlast]
    cases piece a <;> rfl
  · rw [hfirst, hlast]
    rfl

/-! ## Places -/

/-- Where a value stands. -/
inductive Place where
  /-- Outside all elements, or as an item of a list without a key of its own. -/
  | alone
  /-- Under a key. -/
  | under (key : Value)
  /-- As an item of a list under a key. -/
  | item (key : Value)
  /-- As a leaf of a gate control entry. -/
  | field (i : Nat)
  /-- In a list that is a leaf of a gate control entry, which is not gone into. -/
  | nowhere

/-- The place of a key among the leaves of a gate control entry. -/
def field? (key : Value) : Option Nat := key.asText?.bind fun s => gateEntryFields.idxOf? s

/-- Items of a list under a key are gate control entries where they are maps. -/
def isGateKey (key : Value) : Bool :=
  match nameOf key with
  | .ok name => name.tag == gateEntryTag
  | .error _ => false

/-- The place of the value under a key of a gate control entry. -/
def leafPlace (key : Value) : Place :=
  match field? key with
  | some i => .field i
  | none => .under key

namespace Place

/-- The place of the value under a key of a map in some place. -/
def entry : Place → Value → Place
  | item key, k => if isGateKey key then leafPlace k else under k
  | nowhere, _ => nowhere
  | _, k => under k

/-- The place of the items of a list in some place. -/
def part : Place → Place
  | alone => alone
  | under key => item key
  | item _ => alone
  | field _ => nowhere
  | nowhere => nowhere

theorem entry_cases (p : Place) (key : Value) : p.entry key = nowhere ∨ p.entry key = under key ∨
    ∃ i, field? key = some i ∧ p.entry key = field i := by
  cases p with
  | nowhere => exact .inl rfl
  | alone | under | field => exact .inr (.inl rfl)
  | item outer =>
    rw [entry]
    split
    · cases hfield : field? key with
      | none => exact .inr (.inl (by rw [leafPlace, hfield]))
      | some i => exact .inr (.inr ⟨i, rfl, by rw [leafPlace, hfield]⟩)
    · exact .inr (.inl rfl)

/-- The markup of a value in its place. -/
def nodes : Place → Value → Except Fault (List Node)
  | alone, v => Markup.nodes v
  | under key, v => do elements (← nameOf key) v
  | item key, v => do return [← itemElement (← nameOf key) v]
  | field i, v =>
    let name : Name := ⟨gateEntryFields.getD i "", none⟩
    (element name v).map fun node =>
      match i, v with
      | 1, .str s => [.leaf name (.text (escape (withoutModule s)))]
      | _, _ => [node]
  | nowhere, _ => .ok []

theorem nodes_under {key : Value} {name : Name} (h : nameOf key = .ok name) (v : Value) :
    (under key).nodes v = elements name v := by
  rw [nodes, h]
  rfl

theorem nodes_item {key : Value} {name : Name} (h : nameOf key = .ok name) (v : Value) :
    (item key).nodes v = (itemElement name v).map fun n => [n] := by
  rw [nodes, h]
  rfl

theorem nodes_field_list (i : Nat) (items : List Value) :
    (field i).nodes (.list items) =
      .ok [.leaf ⟨gateEntryFields.getD i "", none⟩ (.unsupported "list")] := by
  rw [nodes, element]
  · rcases i with _ | _ | i <;> rfl
  · nofun

theorem nodes_field_tuple (i : Nat) (items : List Value) :
    (field i).nodes (.tuple items) =
      .ok [.leaf ⟨gateEntryFields.getD i "", none⟩ (.unsupported "tuple")] := by
  rw [nodes, element]
  · rcases i with _ | _ | i <;> rfl
  · nofun

end Place

theorem nodesOfItems_eq (items : List Value) :
    nodesOfItems items = written (items.map Place.alone.nodes) := by
  induction items with
  | nil => rw [nodesOfItems]; rfl
  | cons v items ih => rw [nodesOfItems, List.map_cons, written_cons, ih, Place.nodes]

theorem elementsOfItems_eq {key : Value} {name : Name} (h : nameOf key = .ok name) (items : List Value) :
    elementsOfItems name items = written (items.map (Place.item key).nodes) := by
  induction items with
  | nil => rw [elementsOfItems]; rfl
  | cons v items ih =>
    rw [elementsOfItems, List.map_cons, written_cons, ← ih, Place.nodes_item h]
    cases itemElement name v with
    | error e => rfl
    | ok n => cases elementsOfItems name items <;> rfl

theorem nodesOfEntries_eq (entries : Entries) :
    nodesOfEntries entries = written (entries.map fun e => (Place.under e.1).nodes e.2) := by
  induction entries with
  | nil => rw [nodesOfEntries]; rfl
  | cons e entries ih =>
    obtain ⟨key, v⟩ := e
    rw [nodesOfEntries, List.map_cons, written_cons, ih, Place.nodes]
    cases nameOf key <;> rfl

theorem gateEntryParts_eq (entries : Entries) :
    gateEntryParts entries = entries.map fun e => (field? e.1, (leafPlace e.1).nodes e.2) := by
  induction entries with
  | nil => rw [gateEntryParts]; rfl
  | cons e entries ih =>
    obtain ⟨key, v⟩ := e
    rw [gateEntryParts, List.map_cons, ih, leafPlace, field?]
    cases key.asText?.bind fun s => gateEntryFields.idxOf? s with
    | none => rfl
    | some i => rfl

/-! ## Gate control entries -/

/-- The places of the parts of an entry in their order: the known leaves, then the rest. -/
def slots : List (Option Nat) := (List.range gateEntryFields.length).map some ++ [none]

/-- Parts in the order in which they are written. -/
def ordered (parts : List (Option Nat × Except Fault (List Node))) :
    List (Option Nat × Except Fault (List Node)) :=
  slots.flatMap fun slot => parts.filter fun p => p.1 == slot

theorem inFieldOrder_eq (parts : List (Option Nat × Except Fault (List Node))) :
    inFieldOrder parts = written ((ordered parts).map (·.2)) := by
  rw [ordered, slots, List.flatMap_append, List.flatMap_map, List.flatMap_singleton, written,
    List.mapM_map]
  simp only [Option.beq_none]
  rfl

theorem field?_mem_slots (key : Value) : field? key ∈ slots := by
  rw [slots, List.mem_append]
  cases h : field? key with
  | none => exact .inr (List.mem_singleton.2 rfl)
  | some i =>
    obtain ⟨s, -, hs⟩ := Option.bind_eq_some_iff.1 h
    obtain ⟨hi, -⟩ := List.idxOf?_eq_some_iff.1 hs
    exact .inl (List.mem_map_of_mem (List.mem_range.2 hi))

theorem flatMap_filter_around {slot : Option Nat} {others : List (Option Nat)} (h : slot ∉ others)
    (before after : List (Option Nat × Except Fault (List Node))) (r : Except Fault (List Node)) :
    (others.flatMap fun other => (before ++ (slot, r) :: after).filter fun p => p.1 == other) =
      others.flatMap fun other => (before ++ after).filter fun p => p.1 == other := by
  rw [List.flatMap_def, List.flatMap_def]
  refine congrArg List.flatten (List.map_congr_left fun other hother => ?_)
  have hne : slot ≠ other := fun heq => h (heq ▸ hother)
  rw [List.filter_append, List.filter_append, List.filter_cons_of_neg (by simpa using hne)]

/-- Among parts in order, each has its own place. -/
theorem ordered_around {slot : Option Nat} (hslot : slot ∈ slots)
    (before after : List (Option Nat × Except Fault (List Node))) :
    ∃ first last, ordered (before ++ after) = first ++ last ∧
      ∀ r, ordered (before ++ (slot, r) :: after) = first ++ (slot, r) :: last := by
  obtain ⟨low, high, hslots⟩ := List.append_of_mem hslot
  have hnodup : (low ++ slot :: high).Nodup := hslots ▸ (by decide : slots.Nodup)
  obtain ⟨hlow, hhigh⟩ : slot ∉ low ∧ slot ∉ high := by
    simpa using (List.nodup_cons.1 (List.perm_middle.nodup_iff.1 hnodup)).1
  refine ⟨(low.flatMap fun other => (before ++ after).filter fun p => p.1 == other) ++
      before.filter fun p => p.1 == slot,
    (after.filter fun p => p.1 == slot) ++
      high.flatMap fun other => (before ++ after).filter fun p => p.1 == other, ?_, fun r => ?_⟩
  · rw [ordered, hslots, List.flatMap_append, List.flatMap_cons, List.filter_append,
      List.append_assoc, List.append_assoc]
  · rw [ordered, hslots, List.flatMap_append, List.flatMap_cons, flatMap_filter_around hlow,
      flatMap_filter_around hhigh, List.filter_append, List.filter_cons_of_pos (by simp),
      List.append_assoc, List.append_assoc, List.cons_append]

/-! ## Entries side by side -/

theorem nodesOfEntries_around {before after : Entries} {key v : Value} {ns : List Node}
    (h : nodesOfEntries (before ++ (key, v) :: after) = .ok ns) :
    ∃ f, IsAround f ∧ (∀ v, nodesOfEntries (before ++ (key, v) :: after) =
        ((Place.under key).nodes v).map f) ∧
      nodesOfEntries (before ++ after) = .ok (f []) := by
  simp only [nodesOfEntries_eq] at h ⊢
  obtain ⟨f, hf, haround, hwithout⟩ := written_around _ h
  exact ⟨f, hf, fun v => haround (key, v), hwithout⟩

theorem inFieldOrder_around {before after : Entries} {key v : Value} {ns : List Node}
    (h : inFieldOrder (gateEntryParts (before ++ (key, v) :: after)) = .ok ns) :
    ∃ f, IsAround f ∧ (∀ v, inFieldOrder (gateEntryParts (before ++ (key, v) :: after)) =
        ((leafPlace key).nodes v).map f) ∧
      inFieldOrder (gateEntryParts (before ++ after)) = .ok (f []) := by
  simp only [inFieldOrder_eq, gateEntryParts_eq, List.map_append, List.map_cons] at h ⊢
  obtain ⟨first, last, hwithout, hwith⟩ := ordered_around (field?_mem_slots key)
    (before.map fun e => (field? e.1, (leafPlace e.1).nodes e.2))
    (after.map fun e => (field? e.1, (leafPlace e.1).nodes e.2))
  simp only [hwithout, hwith] at h ⊢
  obtain ⟨f, hf, haround, hwithout⟩ := written_around _ h
  exact ⟨f, hf, fun v => haround (field? key, (leafPlace key).nodes v), hwithout⟩

/-! ## Values around a value -/

/-- What stands around a value in a map, a list or a tuple. -/
inductive Frame where
  | entry (before : Entries) (key : Value) (after : Entries)
  | item (before after : List Value)
  | tupleItem (before after : List Value)

namespace Frame

/-- The value with another in the place that the frame leaves. -/
def plug : Frame → Value → Value
  | entry before key after, v => .map (before ++ (key, v) :: after)
  | item before after, v => .list (before ++ v :: after)
  | tupleItem before after, v => .tuple (before ++ v :: after)

/-- The place that a frame in some place leaves. -/
def place (p : Place) : Frame → Place
  | entry _ key _ => p.entry key
  | item _ _ => p.part
  | tupleItem _ _ => p.part

end Frame

/-- A value with frames around it, the outermost first. -/
def plug (context : List Frame) (v : Value) : Value := context.foldr Frame.plug v

namespace Place

/-- The markup of the entries of a map in its place. -/
def inside : Place → Entries → Except Fault (List Node)
  | item key, entries =>
    if isGateKey key then inFieldOrder (gateEntryParts entries) else nodesOfEntries entries
  | nowhere, _ => .ok []
  | _, entries => nodesOfEntries entries

/-- Among the entries of a map, the markup of each value stands by itself. -/
theorem inside_around {p : Place} {before after : Entries} {key v : Value} {ns : List Node}
    (h : p.inside (before ++ (key, v) :: after) = .ok ns) :
    ∃ f, IsAround f ∧
      (∀ v, p.inside (before ++ (key, v) :: after) = ((p.entry key).nodes v).map f) ∧
      p.inside (before ++ after) = .ok (f []) := by
  cases p with
  | alone | under | field => exact nodesOfEntries_around h
  | nowhere => exact ⟨id, isAround_id, fun v => rfl, rfl⟩
  | item outer =>
    simp only [inside, entry] at h ⊢
    cases hgate : isGateKey outer with
    | true =>
      simp only [hgate, if_true] at h ⊢
      exact inFieldOrder_around h
    | false =>
      simp only [hgate, Bool.false_eq_true, if_false] at h ⊢
      exact nodesOfEntries_around h

/-- The markup of a map is that of its entries, within an element where the map has a key. -/
theorem nodes_map {p : Place} {entries : Entries} {ns : List Node}
    (h : p.nodes (.map entries) = .ok ns) :
    ∃ f, IsAround f ∧ ∀ entries, p.nodes (.map entries) = (p.inside entries).map f := by
  cases p with
  | alone =>
    refine ⟨id, isAround_id, fun entries => ?_⟩
    change Markup.nodes (.map entries) = (nodesOfEntries entries).map id
    rw [Markup.nodes]
    cases nodesOfEntries entries <;> rfl
  | under key =>
    obtain ⟨name, hname, -⟩ := bind_eq_ok.1 h
    refine ⟨_, isAround_branch name, fun entries => ?_⟩
    change (under key).nodes (.map entries) = (nodesOfEntries entries).map _
    rw [nodes_under hname, elements]
    cases nodesOfEntries entries <;> rfl
  | item key =>
    obtain ⟨name, hname, -⟩ := bind_eq_ok.1 h
    have hgate : isGateKey key = (name.tag == gateEntryTag) := by rw [isGateKey, hname]
    refine ⟨_, isAround_branch (if name.tag == gateEntryTag then ⟨gateEntryTag, none⟩ else name),
      fun entries => ?_⟩
    rw [nodes_item hname, itemElement, inside, hgate]
    split
    · cases inFieldOrder (gateEntryParts entries) <;> rfl
    · cases nodesOfEntries entries <;> rfl
  | field i =>
    refine ⟨_, isAround_branch ⟨gateEntryFields.getD i "", none⟩, fun entries => ?_⟩
    change _ = (nodesOfEntries entries).map _
    rw [nodes, element]
    cases nodesOfEntries entries with
    | error e => rfl
    | ok ns => rcases i with _ | _ | i <;> rfl
  | nowhere => exact ⟨id, isAround_id, fun entries => rfl⟩

/-- In a map, the markup of each value stands by itself, and is all that the entry adds. -/
theorem nodes_entry {p : Place} {before after : Entries} {key v : Value} {ns : List Node}
    (h : p.nodes (.map (before ++ (key, v) :: after)) = .ok ns) :
    ∃ f, IsAround f ∧
      (∀ v, p.nodes (.map (before ++ (key, v) :: after)) = ((p.entry key).nodes v).map f) ∧
      p.nodes (.map (before ++ after)) = .ok (f []) := by
  obtain ⟨g, hg, hmap⟩ := nodes_map h
  obtain ⟨_, hinside, -⟩ := map_eq_ok.1 ((hmap _).symm.trans h)
  obtain ⟨f, hf, haround, hwithout⟩ := inside_around hinside
  refine ⟨_, hg.comp hf, fun v => ?_, ?_⟩
  · rw [hmap, haround, map_comp]
  · rw [hmap, hwithout]
    rfl

/-- Among the items of a list or a tuple, the markup of each stands by itself. -/
theorem nodes_items {p : Place} {sequence : List Value → Value}
    (hsequence : sequence = .list ∨ sequence = .tuple) {before after : List Value} {v : Value}
    {ns : List Node} (h : p.nodes (sequence (before ++ v :: after)) = .ok ns) :
    ∃ f, IsAround f ∧ ∀ v, p.nodes (sequence (before ++ v :: after)) = (p.part.nodes v).map f := by
  cases p with
  | alone =>
    have hnodes (items) : alone.nodes (sequence items) = written (items.map alone.nodes) := by
      rw [nodes, ← nodesOfItems_eq]
      rcases hsequence with rfl | rfl <;> rw [Markup.nodes]
    simp only [hnodes] at h ⊢
    obtain ⟨f, hf, haround, -⟩ := written_around _ h
    exact ⟨f, hf, haround⟩
  | under key =>
    obtain ⟨name, hname, -⟩ := bind_eq_ok.1 h
    have hnodes (items) :
        (under key).nodes (sequence items) = written (items.map (item key).nodes) := by
      rw [nodes_under hname, ← elementsOfItems_eq hname]
      rcases hsequence with rfl | rfl <;> rw [elements]
    simp only [hnodes] at h ⊢
    obtain ⟨f, hf, haround, -⟩ := written_around _ h
    exact ⟨f, hf, haround⟩
  | item key =>
    obtain ⟨name, hname, -⟩ := bind_eq_ok.1 h
    have hnodes (items) : (item key).nodes (sequence items) =
        (written (items.map alone.nodes)).map fun ns => [.branch name ns] := by
      rw [nodes_item hname, ← nodesOfItems_eq]
      rcases hsequence with rfl | rfl <;> rw [itemElement] <;> cases nodesOfItems items <;> rfl
    simp only [hnodes] at h ⊢
    obtain ⟨ms, h, -⟩ := map_eq_ok.1 h
    obtain ⟨f, hf, haround, -⟩ := written_around _ h
    exact ⟨_, (isAround_branch name).comp hf, fun v => by rw [haround, map_comp, part]⟩
  | field i =>
    rcases hsequence with rfl | rfl
    · exact ⟨_, isAround_beside [.leaf _ (.unsupported "list")] [], fun v => nodes_field_list i _⟩
    · exact ⟨_, isAround_beside [.leaf _ (.unsupported "tuple")] [], fun v => nodes_field_tuple i _⟩
  | nowhere => exact ⟨id, isAround_id, fun v => rfl⟩

/-- Whatever stands around a value, its own markup stands in one piece in that of the whole. -/
theorem nodes_plug {p : Place} {context : List Frame} {v : Value} {ns : List Node}
    (h : p.nodes (plug context v) = .ok ns) :
    ∃ f, IsAround f ∧
      ∀ v, p.nodes (plug context v) = ((context.foldl Frame.place p).nodes v).map f := by
  induction context generalizing p ns with
  | nil => exact ⟨id, isAround_id, fun v => by cases h : p.nodes v <;> simp [plug, h, Except.map]⟩
  | cons frame context ih =>
    obtain ⟨f, hf, haround⟩ : ∃ f, IsAround f ∧
        ∀ v, p.nodes (frame.plug v) = ((frame.place p).nodes v).map f := by
      cases frame with
      | entry before key after =>
        obtain ⟨f, hf, haround, -⟩ := nodes_entry h
        exact ⟨f, hf, haround⟩
      | item before after => exact nodes_items (.inl rfl) h
      | tupleItem before after => exact nodes_items (.inr rfl) h
    obtain ⟨_, hinner, -⟩ := map_eq_ok.1 ((haround _).symm.trans h)
    obtain ⟨g, hg, hplug⟩ := ih hinner
    refine ⟨_, hf.comp hg, fun v => ?_⟩
    change p.nodes (frame.plug (plug context v)) = _
    rw [haround, hplug, map_comp, List.foldl_cons]

end Place

end GateRollout.Markup
