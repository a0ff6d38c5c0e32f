import Mathlib.Data.List.Nodup
import GateRollout.Proofs.Json.Data
import GateRollout.Proofs.Markup.Qualified

/-!
# Entries of a gate control list in canonical form

An entry of a gate control list is written like any other map, once its fields are brought into their order
and its operation is named without its module.
-/

namespace GateRollout.Markup

/-- The values of some names, as the fields of an entry. -/
abbrev Fields := List (String × Value)

/-! ## The canonical form -/

/-- What is behind the first colon of a text; nothing where there is no colon. -/
def afterColon (s : String) : String := String.ofList ((s.toList.dropWhile (· != ':')).drop 1)

/-- The name of an operation: what is behind the first colon, if anything is. -/
def operationName : Value → Value
  | .str s => .str (if (afterColon s).isEmpty then s else afterColon s)
  | v => v

/-- A field with its operation named without a module. -/
def canonicalField (f : String × Value) : String × Value :=
  if f.1 = "operation-name" then (f.1, operationName f.2) else f

/-- A field that every entry of a gate control list may have. -/
def isKnown (f : String × Value) : Bool := gateEntryFields.contains f.1

/-- The known fields in their order, and behind them the others in the order in which they stand. -/
def fieldOrder (fields : Fields) : Fields :=
  (gateEntryFields.flatMap fun name => fields.filter fun f => f.1 == name) ++
    fields.filter fun f => !isKnown f

/-- The canonical form of an entry. -/
def canonicalEntry (fields : Fields) : Fields := (fieldOrder fields).map canonicalField

/-! ### Order -/

theorem flatMap_filter_perm {names : List String} (h : names.Nodup) (fields : Fields) :
    (names.flatMap fun name => fields.filter fun f => f.1 == name).Perm
      (fields.filter fun f => names.contains f.1) := by
  induction names with
  | nil => simp
  | cons name names ih =>
    obtain ⟨hname, hnames⟩ := List.nodup_cons.1 h
    -- the fields of the first name, and those of the others
    have hsplit := List.filter_append_perm (fun f => f.1 == name)
      (fields.filter fun f => (name :: names).contains f.1)
    rw [List.filter_filter, List.filter_filter] at hsplit
    rw [List.flatMap_cons]
    refine List.Perm.trans ?_ hsplit
    refine List.Perm.append (.of_eq (List.filter_congr fun f _ => ?_))
      ((ih hnames).trans (.of_eq (List.filter_congr fun f _ => ?_)))
    · by_cases hf : f.1 = name <;> simp [hf]
    · by_cases hf : f.1 = name <;> simp [hf, hname]

/-- Nothing is lost or doubled by ordering the fields. -/
theorem fieldOrder_perm (fields : Fields) : (fieldOrder fields).Perm fields :=
  ((flatMap_filter_perm (by decide) fields).append_right _).trans (List.filter_append_perm isKnown fields)

theorem canonicalEntry_perm (fields : Fields) : (canonicalEntry fields).Perm (fields.map canonicalField) :=
  (fieldOrder_perm fields).map canonicalField

theorem filter_name_length_le {fields : Fields} (h : (fields.map Prod.fst).Nodup) (name : String) :
    (fields.filter fun f => f.1 == name).length ≤ 1 := by
  have hnames : (fields.filter fun f => f.1 == name).map Prod.fst =
      List.replicate (fields.filter fun f => f.1 == name).length name := by
    refine List.eq_replicate_iff.2 ⟨List.length_map _, fun n hn => ?_⟩
    obtain ⟨f, hf, rfl⟩ := List.mem_map.1 hn
    exact beq_iff_eq.1 (List.mem_filter.1 hf).2
  rw [← List.nodup_replicate (a := name), ← hnames]
  exact h.sublist (List.filter_sublist.map Prod.fst)

theorem eq_of_perm_of_length_le {α : Type} {xs ys : List α} (h : xs.Perm ys) (hys : ys.length ≤ 1) :
    xs = ys := by
  match ys with
  | [] => exact h.eq_nil
  | [y] => exact List.perm_singleton.1 h
  | _ :: _ :: _ => simp at hys

/-- The order of the known fields does not matter. -/
theorem fieldOrder_eq_of_perm {fields fields' : Fields} (h : (fields.map Prod.fst).Nodup)
    (hperm : fields'.Perm fields)
    (hothers : (fields'.filter fun f => !isKnown f) = fields.filter fun f => !isKnown f) :
    fieldOrder fields' = fieldOrder fields := by
  rw [fieldOrder, fieldOrder, hothers, List.flatMap_def, List.flatMap_def]
  refine congrArg (List.flatten · ++ _) (List.map_congr_left fun name _ => ?_)
  exact eq_of_perm_of_length_le (hperm.filter _) (filter_name_length_le h name)

/-! ## Fields in their places -/

theorem field?_eq_some_iff {name : String} {i : Nat} :
    field? (.str name) = some i ↔ gateEntryFields[i]? = some name := by
  change gateEntryFields.idxOf? name = some i ↔ _
  rw [List.idxOf?_eq_some_iff, List.getElem?_eq_some_iff]
  refine ⟨fun ⟨hi, hname, _⟩ => ⟨hi, hname⟩, fun ⟨hi, hname⟩ => ⟨hi, hname, fun j hj heq => ?_⟩⟩
  -- no name stands in two places
  have hdistinct : gateEntryFields.Nodup := by decide
  exact absurd ((List.Nodup.getElem_inj_iff hdistinct).1 (heq.trans hname.symm)) (Nat.ne_of_lt hj)

theorem field?_eq_none_iff {name : String} :
    field? (.str name) = none ↔ gateEntryFields.contains name = false := by
  change gateEntryFields.idxOf? name = none ↔ _
  rw [List.idxOf?_eq_none_iff, List.contains_eq_mem, decide_eq_false_iff_not]

theorem withoutModule_eq (s : String) :
    withoutModule s = if (afterColon s).isEmpty then s else afterColon s := by
  have hisEmpty (cs : List Char) : (String.ofList cs).isEmpty = cs.isEmpty := by
    rw [Bool.eq_iff_iff, String.isEmpty_iff, List.isEmpty_iff, String.ofList_eq_empty_iff]
  rw [withoutModule, splitColon?, afterColon, hisEmpty]
  cases s.toList.dropWhile (· != ':') with
  | nil => rfl
  | cons c rest => cases rest <;> rfl

/-- A list or a tuple. -/
def IsSequence (v : Value) : Prop := ∃ items, v = .list items ∨ v = .tuple items

theorem elements_eq {name : Name} {v : Value} (h : ¬IsSequence v) :
    elements name v = (element name v).map fun n => [n] := by
  have hleaf : ∀ v, (do return [← leafOf name v]) = (leafOf name v).map fun n => [n] := by
    intro v
    cases leafOf name v <;> rfl
  cases v with
  | list items => exact absurd ⟨items, .inl rfl⟩ h
  | tuple items => exact absurd ⟨items, .inr rfl⟩ h
  | map entries =>
    rw [elements, element]
    cases nodesOfEntries entries <;> rfl
  | _ => exact hleaf _

/-- The leaf of an operation is that of its name without a module. -/
theorem nodes_operation (v : Value) (h : ¬IsSequence v) :
    (Place.field 1).nodes v = elements ⟨"operation-name", none⟩ (operationName v) := by
  cases v with
  | str s =>
    rw [operationName, ← withoutModule_eq, elements]
    · rfl
    all_goals simp
  | _ =>
    rw [operationName, elements_eq h]
    · rfl
    all_goals simp

theorem nodes_field {i : Nat} (hi : i ≠ 1) {v : Value} (h : ¬IsSequence v) :
    (Place.field i).nodes v = elements ⟨gateEntryFields.getD i "", none⟩ v := by
  rw [elements_eq h, Place.nodes]
  rcases i with _ | _ | i
  · rfl
  · exact absurd rfl hi
  · rfl

/-- In an entry of a gate control list, a field is written like its canonical form in any other map. -/
theorem nodes_leafPlace {f : String × Value} (h : isKnown f = true → ¬IsSequence f.2) :
    (leafPlace (.str f.1)).nodes f.2 =
      (Place.under (.str (canonicalField f).1)).nodes (canonicalField f).2 := by
  obtain ⟨name, v⟩ := f
  rw [leafPlace]
  cases hfield : field? (.str name) with
  | none =>
    have hname : name ≠ "operation-name" := by
      rintro rfl
      cases hfield
    rw [canonicalField, if_neg hname]
  | some i =>
    have hname := field?_eq_some_iff.1 hfield
    have hv : ¬IsSequence v := h (List.contains_iff_mem.2 (List.mem_of_getElem? hname))
    have hkey : nameOf (.str name) = .ok ⟨gateEntryFields.getD i "", none⟩ :=
      congrArg Except.ok (ofKey_field hfield)
    have hunder := Place.nodes_under hkey
    by_cases hi : i = 1
    · subst hi
      obtain rfl := Option.some.inj hname
      exact (nodes_operation v hv).trans (hunder _).symm
    · have hne : name ≠ "operation-name" := by
        rintro rfl
        exact hi (Option.some.inj hfield).symm
      rw [canonicalField, if_neg hne]
      exact (nodes_field hi hv).trans (hunder v).symm

theorem filter_place (fields : Fields) {name : String} {i : Nat} (h : gateEntryFields[i]? = some name) :
    (fields.filter fun f => field? (.str f.1) == some i) = fields.filter fun f => f.1 == name := by
  refine List.filter_congr fun f _ => ?_
  rw [Bool.eq_iff_iff, beq_iff_eq, beq_iff_eq, field?_eq_some_iff, h, Option.some.injEq, eq_comm]

theorem filter_noPlace (fields : Fields) :
    (fields.filter fun f => field? (.str f.1) == none) = fields.filter fun f => !isKnown f := by
  refine List.filter_congr fun f _ => ?_
  rw [Bool.eq_iff_iff, beq_iff_eq, field?_eq_none_iff, isKnown, Bool.not_eq_true']

theorem flatMap_slots (fields : Fields) :
    (slots.flatMap fun slot => fields.filter fun f => field? (.str f.1) == slot) = fieldOrder fields := by
  rw [slots, fieldOrder, List.flatMap_append, List.flatMap_map, List.flatMap_singleton, filter_noPlace]
  refine congrArg (· ++ _) ?_
  change _ = ((List.range gateEntryFields.length).map fun i => gateEntryFields.getD i "").flatMap _
  rw [List.flatMap_map, List.flatMap_def, List.flatMap_def]
  refine congrArg List.flatten (List.map_congr_left fun i hi => filter_place fields ?_)
  rw [List.getD_eq_getElem?_getD, List.getElem?_eq_getElem (List.mem_range.1 hi), Option.getD_some]

/-- The parts of an entry are those of its fields in their order. -/
theorem ordered_named (fields : Fields) (piece : String × Value → Except Fault (List Node)) :
    ordered (fields.map fun f => (field? (.str f.1), piece f)) =
      (fieldOrder fields).map fun f => (field? (.str f.1), piece f) := by
  rw [← flatMap_slots, ordered, List.map_flatMap]
  simp only [List.filter_map]
  rfl

/-- An entry of a gate control list is written as its canonical form is in any other map. -/
theorem inFieldOrder_named (fields : Fields) :
    inFieldOrder (gateEntryParts (Entries.named fields)) =
      written ((fieldOrder fields).map fun f => (leafPlace (.str f.1)).nodes f.2) := by
  rw [inFieldOrder_eq, gateEntryParts_eq, Entries.named, List.map_map]
  have hordered := ordered_named fields fun f => (leafPlace (.str f.1)).nodes f.2
  refine (congrArg (fun parts => written (parts.map Prod.snd)) hordered).trans ?_
  rw [List.map_map]
  rfl

theorem nodesOfEntries_named (fields : Fields) :
    nodesOfEntries (Entries.named fields) =
      written (fields.map fun f => (Place.under (.str f.1)).nodes f.2) := by
  rw [nodesOfEntries_eq, Entries.named, List.map_map]
  rfl

/-- The known fields of an entry hold no lists and no tuples. -/
def AreLeaves (fields : Fields) : Prop := ∀ f ∈ fields, isKnown f = true → ¬IsSequence f.2

theorem inFieldOrder_eq_nodesOfEntries {fields : Fields} (h : AreLeaves fields) :
    inFieldOrder (gateEntryParts (Entries.named fields)) =
      nodesOfEntries (Entries.named (canonicalEntry fields)) := by
  rw [inFieldOrder_named, nodesOfEntries_named, canonicalEntry, List.map_map]
  refine congrArg written (List.map_congr_left fun f hf => ?_)
  exact nodes_leafPlace (h f ((fieldOrder_perm fields).mem_iff.1 hf))

/-! ## Entries in a list -/

/-- An element for a single item of a list under a key. -/
theorem encode_item (key : String) (v : Value) (indent : Int) :
    encode (.map (Entries.named [(key, .list [v])])) indent =
      (itemElement (Name.ofKey key) v).map fun n => render indent [n] := by
  rw [encode, nodes, nodesOfEntries_named, List.map_singleton, written_cons, Place.nodes_under rfl, elements,
    elementsOfItems, elementsOfItems]
  cases itemElement (Name.ofKey key) v <;> rfl

/-- The element for a map under a key. -/
theorem encode_map (key : String) (entries : Entries) (indent : Int) :
    encode (.map (Entries.named [(key, .map entries)])) indent =
      (element (Name.ofKey key) (.map entries)).map fun n => render indent [n] := by
  rw [encode, nodes, nodesOfEntries_named, List.map_singleton, written_cons, Place.nodes_under rfl, elements,
    element]
  cases nodesOfEntries entries <;> rfl

theorem ofKey_gateEntryTag : Name.ofKey gateEntryTag = ⟨gateEntryTag, none⟩ :=
  (Name.IsFor.plain (by decide)).eq_ofKey.symm

theorem itemElement_gateEntry {name : Name} (hname : name.tag = gateEntryTag) (entries : Entries) :
    itemElement name (.map entries) =
      (inFieldOrder (gateEntryParts entries)).map (.branch ⟨gateEntryTag, none⟩) := by
  rw [itemElement, if_pos (beq_iff_eq.2 hname)]
  cases inFieldOrder (gateEntryParts entries) <;> rfl

/-- An item of a list of gate control entries is the element of its canonical form. -/
theorem itemElement_eq_element {name : Name} (hname : name.tag = gateEntryTag) {fields : Fields}
    (h : AreLeaves fields) :
    itemElement name (.map (Entries.named fields)) =
      element ⟨gateEntryTag, none⟩ (.map (Entries.named (canonicalEntry fields))) := by
  rw [itemElement_gateEntry hname, inFieldOrder_eq_nodesOfEntries h, element]
  cases nodesOfEntries (Entries.named (canonicalEntry fields)) <;> rfl

theorem itemElement_eq_of_perm {name : Name} (hname : name.tag = gateEntryTag) {fields fields' : Fields}
    (h : (fields.map Prod.fst).Nodup) (hperm : fields'.Perm fields)
    (hothers : (fields'.filter fun f => !isKnown f) = fields.filter fun f => !isKnown f) :
    itemElement name (.map (Entries.named fields')) = itemElement name (.map (Entries.named fields)) := by
  rw [itemElement_gateEntry hname, itemElement_gateEntry hname, inFieldOrder_named, inFieldOrder_named,
    fieldOrder_eq_of_perm h hperm hothers]

/-- What is written for some fields is what is written for each of them, one after the other. -/
theorem exists_pieces {fields : Fields} {children : List Node}
    (h : nodesOfEntries (Entries.named fields) = .ok children) :
    ∃ pieces, List.Forall₂ (fun f ns => (Place.under (.str f.1)).nodes f.2 = .ok ns) fields pieces ∧
      children = pieces.flatten := by
  rw [nodesOfEntries_named] at h
  obtain ⟨pieces, hpieces, h⟩ := bind_eq_ok.1 h
  rw [List.mapM_map] at hpieces
  exact ⟨pieces, mapM_eq_ok_iff.1 hpieces, (Except.ok.inj h).symm⟩

/-- The text of a list with one entry of a gate control list, under a key. -/
def encodedEntry (key : String) (fields : Fields) (indent : Int) : Except Fault String :=
  encode (.map (Entries.named [(key, .list [.map (Entries.named fields)])])) indent

/-- An entry of a gate control list is written like a map under the unqualified key, once its fields are in
their order and its operation is named without a module.  So each field is written once, and the order of the
known fields does not matter. -/
theorem gate_entry_canonical {key : String} (hkey : (Name.ofKey key).tag = gateEntryTag) {fields : Fields}
    (hdistinct : (fields.map Prod.fst).Nodup) (hleaves : AreLeaves fields) (indent : Int) :
    itemElement (Name.ofKey key) (.map (Entries.named fields)) =
        element ⟨gateEntryTag, none⟩ (.map (Entries.named (canonicalEntry fields))) ∧
      encodedEntry key fields indent =
        encode (.map (Entries.named [(gateEntryTag, .map (Entries.named (canonicalEntry fields)))])) indent ∧
      (canonicalEntry fields).Perm (fields.map canonicalField) ∧
      (∀ n, itemElement (Name.ofKey key) (.map (Entries.named fields)) = .ok n →
        ∃ pieces, List.Forall₂ (fun f ns => (Place.under (.str f.1)).nodes f.2 = .ok ns)
          (canonicalEntry fields) pieces ∧ n = .branch ⟨gateEntryTag, none⟩ pieces.flatten) ∧
      ∀ fields', fields'.Perm fields →
        (fields'.filter fun f => !isKnown f) = fields.filter (fun f => !isKnown f) →
        encodedEntry key fields' indent = encodedEntry key fields indent := by
  have helement := itemElement_eq_element hkey hleaves
  refine ⟨helement, ?_, canonicalEntry_perm fields, fun n hn => ?_, fun fields' hperm hothers => ?_⟩
  · rw [encodedEntry, encode_item, encode_map, ofKey_gateEntryTag, helement]
  · rw [helement, element] at hn
    obtain ⟨children, hchildren, hn⟩ := bind_eq_ok.1 hn
    obtain ⟨pieces, hpieces, rfl⟩ := exists_pieces hchildren
    exact ⟨pieces, hpieces, (Except.ok.inj hn).symm⟩
  · rw [encodedEntry, encodedEntry, encode_item, encode_item,
      itemElement_eq_of_perm hkey hdistinct hperm hothers]

/-- The known fields of an entry are out of order, its operation is one of a module, and it has a list under a
further key; with its known fields in another order it is written alike. -/
theorem gate_entry_canonical_out_of_order :
    let others : Value := .list [.str "a", .null]
    let entry : Fields :=
      [("gate-states-value", .int 255), ("x:notes", others), ("operation-name", .str "sched:hold:mac"),
        ("index", .int 0)]
    let entry' : Fields :=
      [("index", .int 0), ("gate-states-value", .int 255), ("x:notes", others),
        ("operation-name", .str "sched:hold:mac")]
    let canonical : Fields :=
      [("index", .int 0), ("operation-name", .str "hold:mac"), ("gate-states-value", .int 255),
        ("x:notes", others)]
    encodedEntry "sched:gate-control-entry" entry 2 =
        encode (.map (Entries.named [("gate-control-entry", .map (Entries.named canonical))])) 2 ∧
      encodedEntry "sched:gate-control-entry" entry' 2 = encodedEntry "sched:gate-control-entry" entry 2 := by
  intro others entry entry' canonical
  have hkey : (Name.ofKey "sched:gate-control-entry").tag = gateEntryTag := by decide
  have hleaves : AreLeaves entry := by
    simp [AreLeaves, entry, IsSequence, isKnown, gateEntryFields]
  have hcanonical : canonicalEntry entry = canonical := by rfl
  obtain ⟨-, h, -, -, hperm⟩ := gate_entry_canonical hkey (by decide) hleaves 2
  rw [hcanonical] at h
  exact ⟨h, hperm entry' (List.perm_append_singleton _ _).symm rfl⟩

end GateRollout.Markup
