import GateRollout.Proofs.Mapping.Dialects
import GateRollout.Proofs.Markup.Rendered

/-!
# Standard payloads lose nothing

The standard payload of a table tells the whole table, with the order of its entries and the states that
are absent, and the port.  The encoder makes nodes of the tree of a table, which are written out here, and
the text of these nodes is read in one way.
-/

namespace GateRollout

/-- The operation that an entry is expressed with has a name. -/
theorem TableEntry.Expresses.operation_ne {e : GateEntry} {x : TableEntry} (h : Expresses e x) :
    x.operation ≠ "" := by
  cases hop : e.operation with
  | none =>
    rw [h.noOperation hop]
    decide
  | some op =>
    rw [h.ownOperation op hop]
    cases op <;> decide

namespace Standard

open Markup

/-! ## The nodes of a table -/

/-- An element with the text of a scalar. -/
def leafNode (tag : String) (v : Value) : Markup.Node := .leaf ⟨tag, none⟩ (.text (scalarText v))

/-- An element for a number, where there is one. -/
def optionNodes (tag : String) (n : Option Int) : List Markup.Node :=
  n.toList.map fun n => leafNode tag (.int n)

/-- The node of an entry; its operation stands without the module. -/
def entryNode (e : TableEntry) : Markup.Node :=
  .branch ⟨gateEntryTag, none⟩
    ([leafNode "index" (.int e.index), leafNode "operation-name" (.str e.operation),
      leafNode "time-interval-value" (.int e.interval)] ++ optionNodes "gate-states-value" e.gateStates)

/-- The nodes of a table. -/
def tableNodes (t : GateTable) : List Markup.Node :=
  [leafNode "gate-enabled" (.bool t.gateEnabled)] ++ optionNodes "admin-gate-states" t.adminGateStates ++
    [.branch ⟨"admin-control-list", none⟩ (t.entries.map entryNode),
      .branch ⟨"admin-cycle-time", none⟩
        [leafNode "numerator" t.cycleNumerator.toValue, leafNode "denominator" t.cycleDenominator.toValue],
      leafNode "admin-cycle-time-extension" t.extension.toValue,
      .branch ⟨"admin-base-time", none⟩
        [leafNode "seconds" (.int t.baseSeconds), leafNode "nanoseconds" (.int t.baseNanoseconds)],
      leafNode "config-change" (.bool t.configChange)]

/-- The node of a table on a port. -/
def portNode (t : GateTable) (interface : String) : Markup.Node :=
  .branch (.ofKey "ietf-interfaces:interfaces")
    [.branch ⟨"interface", none⟩
      [leafNode "name" (.str interface),
        .branch (.ofKey "ieee802-dot1q-bridge:bridge-port")
          [.branch (.ofKey (schedBridgeModule ++ ":gate-parameter-table")) (tableNodes t)]]]

/-! ## The nodes of a tree -/

theorem ofKey_bare {key : String} (h : ':' ∉ key.toList) : Name.ofKey key = ⟨key, none⟩ := by
  rw [Name.ofKey, splitColon?_of_not_mem h]

theorem leafOf_scalar {v : Value} (hv : isScalar v = true) (htext : v.hasText = true) (tag : String) :
    leafOf ⟨tag, none⟩ v = .ok (leafNode tag v) :=
  leafOf_eq_ok.2 ⟨fun _ => htext, by rw [leafNode, bodyOf_scalar hv]⟩

/-- Entries of a tree are written as some nodes. -/
def Writes (entries : List (String × Value)) (ns : List Markup.Node) : Prop :=
  nodesOfEntries (entries.map fun (k, v) => (.str k, v)) = .ok ns

namespace Writes

variable {entries entries' : List (String × Value)} {ns ms : List Markup.Node} {key : String} {v : Value}

theorem nil : Writes [] [] := by rw [Writes, List.map_nil, nodesOfEntries]

theorem cons (h : elements (Name.ofKey key) v = .ok ns) (h' : Writes entries ms) :
    Writes ((key, v) :: entries) (ns ++ ms) := by
  rw [Writes, List.map_cons, nodesOfEntries, nameOf]
  change (elements (Name.ofKey key) v >>= fun ns => nodesOfEntries _ >>= fun ms => _) = _
  rw [h]
  change (nodesOfEntries _ >>= fun ms => _) = _
  rw [h']
  rfl

/-- An entry that is written as one node. -/
theorem one {n : Markup.Node} (h : elements (Name.ofKey key) v = .ok [n]) (h' : Writes entries ms) :
    Writes ((key, v) :: entries) (n :: ms) := cons h h'

theorem scalar (hkey : ':' ∉ key.toList) (hv : isScalar v = true) (htext : v.hasText = true)
    (h' : Writes entries ms) : Writes ((key, v) :: entries) (leafNode key v :: ms) := by
  refine one ?_ h'
  rw [ofKey_bare hkey]
  have hleaf := leafOf_scalar hv htext key
  cases v with
  | bool _ | int _ | float _ | str _ =>
    simp only [elements]
    rw [hleaf]
    rfl
  | _ => cases hv

theorem number (hkey : ':' ∉ key.toList) {n : Number} (hn : n.isWritten = true)
    (h' : Writes entries ms) : Writes ((key, n.toValue) :: entries) (leafNode key n.toValue :: ms) := by
  cases n with
  | int n => exact scalar hkey rfl (Value.hasText_int.trans hn) h'
  | float x => exact scalar hkey rfl rfl h'

theorem leaf? (hkey : ':' ∉ key.toList) {n : Option Int} (hn : n.all Text.isWritten = true)
    (h' : Writes entries ms) : Writes (leaf? key n ++ entries) (optionNodes key n ++ ms) := by
  cases n with
  | none => exact h'
  | some n => exact scalar hkey rfl (Value.hasText_int.trans hn) h'

theorem branch {name : Name} (hname : Name.ofKey key = name) (h : Writes entries ns)
    (h' : Writes entries' ms) : Writes ((key, tree entries) :: entries') (.branch name ns :: ms) := by
  refine one ?_ h'
  rw [hname, tree, elements, h]
  rfl

theorem items {name : Name} {items : List Value} (hname : Name.ofKey key = name)
    (h : elementsOfItems name items = .ok ns) (h' : Writes entries ms) :
    Writes ((key, .list items) :: entries) (ns ++ ms) := by
  refine cons ?_ h'
  rw [hname, elements, h]

/-- A list of one tree is written as one element, except where its items are entries of a gate control
list. -/
theorem item {name : Name} (hname : (name.tag == gateEntryTag) = false) (h : Writes entries ns) :
    elementsOfItems name [tree entries] = .ok [.branch name ns] := by
  rw [elementsOfItems, elementsOfItems, tree, itemElement, hname, if_neg (by decide), h]
  rfl

end Writes

/-- A known leaf of an entry has its place and its element. -/
theorem gateEntryParts_int {tag : String} {i : Nat} (hi : gateEntryFields.idxOf? tag = some i) {n : Int}
    (hn : Text.isWritten n = true) (rest : List (Value × Value)) :
    gateEntryParts ((.str tag, .int n) :: rest) =
      (some i, .ok [leafNode (gateEntryFields.getD i "") (.int n)]) :: gateEntryParts rest := by
  rw [gateEntryParts]
  simp only [Value.asText?, Option.bind_some, hi, element, leafOf_scalar rfl (Value.hasText_int.trans hn)]
  rfl

theorem gateEntryParts_operation {s : String} (rest : List (Value × Value)) :
    gateEntryParts ((.str "operation-name", .str s) :: rest) =
      (some 1, .ok [leafNode "operation-name" (.str (withoutModule s))]) :: gateEntryParts rest := by
  have hi : gateEntryFields.idxOf? "operation-name" = some 1 := by decide
  rw [gateEntryParts]
  simp only [Value.asText?, Option.bind_some, hi, element, leafOf_scalar rfl Value.hasText_str]
  rfl

theorem withoutModule_operation {operation : String} (h : operation ≠ "") :
    withoutModule (schedModule ++ ":" ++ operation) = operation := by
  have hsplit : splitColon? (schedModule ++ ":" ++ operation).toList =
      some (schedModule.toList, operation.toList) := by
    rw [String.toList_append, String.toList_append, List.append_assoc]
    exact splitColon?_append _ (by decide)
  rw [withoutModule, hsplit]
  cases hop : operation.toList with
  | nil => exact absurd (String.toList_eq_nil_iff.1 hop) h
  | cons c rest =>
    change String.ofList (c :: rest) = operation
    rw [← hop, String.ofList_toList]

theorem itemElement_entryTree {e : TableEntry} (h : e.operation ≠ "") (hwritten : e.isWritten = true) :
    itemElement ⟨gateEntryTag, none⟩ (entryTree e) = .ok (entryNode e) := by
  obtain ⟨hindex, hinterval, hstates⟩ := TableEntry.isWritten_iff.1 hwritten
  rw [entryTree, tree, itemElement, if_pos (by decide), entryNode]
  cases hgates : e.gateStates with
  | none =>
    simp only [leaf?, List.append_nil, List.map_cons, List.map_nil]
    rw [gateEntryParts_int (i := 0) (by decide) hindex, gateEntryParts_operation,
      gateEntryParts_int (i := 2) (by decide) hinterval, withoutModule_operation h, gateEntryParts]
    rfl
  | some n =>
    rw [hgates] at hstates
    simp only [leaf?, List.cons_append, List.nil_append, List.map_cons, List.map_nil]
    rw [gateEntryParts_int (i := 0) (by decide) hindex, gateEntryParts_operation,
      gateEntryParts_int (i := 2) (by decide) hinterval, gateEntryParts_int (i := 3) (by decide) hstates,
      withoutModule_operation h, gateEntryParts]
    rfl

theorem elementsOfItems_entries {entries : List TableEntry} (h : ∀ e ∈ entries, e.operation ≠ "")
    (hwritten : ∀ e ∈ entries, e.isWritten = true) :
    elementsOfItems ⟨gateEntryTag, none⟩ (entries.map entryTree) = .ok (entries.map entryNode) := by
  induction entries with
  | nil => rw [List.map_nil, elementsOfItems, List.map_nil]
  | cons e rest ih =>
    rw [List.forall_mem_cons] at h hwritten
    rw [List.map_cons, elementsOfItems, itemElement_entryTree h.1 hwritten.1, ih h.2 hwritten.2]
    rfl

/-- The tree of a table is written as the nodes of the table. -/
theorem writes_tableTree {t : GateTable} (h : ∀ e ∈ t.entries, e.operation ≠ "")
    (hwritten : t.isWritten = true) :
    ∃ entries, tableTree t = tree entries ∧ Writes entries (tableNodes t) := by
  obtain ⟨hstates, hlist, hnumerator, hdenominator, hextension, hseconds, hnanoseconds⟩ :=
    GateTable.isWritten_iff.1 hwritten
  have hentries : Writes [("gate-control-entry", .list (t.entries.map entryTree))]
      (t.entries.map entryNode) := by
    have hitems : Writes [("gate-control-entry", _)] _ :=
      .items (ofKey_bare (by decide)) (elementsOfItems_entries h hlist) .nil
    rwa [List.append_nil] at hitems
  have hcycle : Writes
      [("numerator", t.cycleNumerator.toValue), ("denominator", t.cycleDenominator.toValue)]
      [leafNode "numerator" t.cycleNumerator.toValue, leafNode "denominator" t.cycleDenominator.toValue] :=
    .number (by decide) hnumerator (.number (by decide) hdenominator .nil)
  have hbase : Writes [("seconds", .int t.baseSeconds), ("nanoseconds", .int t.baseNanoseconds)]
      [leafNode "seconds" (.int t.baseSeconds), leafNode "nanoseconds" (.int t.baseNanoseconds)] :=
    .scalar (by decide) rfl (Value.hasText_int.trans hseconds)
      (.scalar (by decide) rfl (Value.hasText_int.trans hnanoseconds) .nil)
  refine ⟨_, rfl, ?_⟩
  simp only [tableNodes, List.append_assoc]
  exact .scalar (by decide) rfl rfl (.leaf? (by decide) hstates (.branch (ofKey_bare (by decide)) hentries
    (.branch (ofKey_bare (by decide)) hcycle (.number (by decide) hextension
      (.branch (ofKey_bare (by decide)) hbase (.scalar (by decide) rfl rfl .nil))))))

/-- The encoder makes one node of the tree of a table on a port. -/
theorem nodes_portTree {t : GateTable} (h : ∀ e ∈ t.entries, e.operation ≠ "")
    (hwritten : t.isWritten = true) (interface : String) :
    nodes (portTree t interface) = .ok [portNode t interface] := by
  obtain ⟨entries, htree, htable⟩ := writes_tableTree h hwritten
  have hport : Writes
      [("name", .str interface),
        ("ieee802-dot1q-bridge:bridge-port",
          tree [(schedBridgeModule ++ ":gate-parameter-table", tree entries)])] _ :=
    .scalar (by decide) rfl Value.hasText_str (.branch rfl (.branch rfl htable .nil) .nil)
  have hinterfaces : Writes [("ietf-interfaces:interfaces", _)] [portNode t interface] :=
    .branch rfl (.items (ofKey_bare (by decide)) (hport.item (by decide)) .nil) .nil
  rw [portTree, htree, tree, nodes]
  exact hinterfaces

/-! ## What the nodes tell -/

/-- The tags of the elements with text alone. -/
def lineTags : List String :=
  ["name", "gate-enabled", "admin-gate-states", "index", "operation-name", "time-interval-value",
    "gate-states-value", "numerator", "denominator", "admin-cycle-time-extension", "seconds", "nanoseconds",
    "config-change"]

/-- Nodes that their text tells. -/
def IsTold (n : Markup.Node) : Prop := n.IsReadable (· ∈ lineTags)

theorem isTold_leafNode {tag : String} (h : tag ∈ lineTags) (v : Value) : IsTold (leafNode tag v) := by
  have hall : ∀ tag ∈ lineTags, isName tag.toList = true := by decide
  exact .leaf (Name.isPlain_bare (hall tag h)) h (not_mem_scalarText v)

theorem isTold_optionNodes {tag : String} (h : tag ∈ lineTags) (n : Option Int) :
    ∀ m ∈ optionNodes tag n, IsTold m := by
  rw [optionNodes, List.forall_mem_map]
  exact fun _ _ => isTold_leafNode h _

/-- An element of a name without a module, around other nodes. -/
theorem isTold_branch {tag : String} (htag : isName tag.toList = true ∧ tag ∉ lineTags)
    {children : List Markup.Node} (h : ∀ n ∈ children, IsTold n) : IsTold (.branch ⟨tag, none⟩ children) :=
  .branch (Name.isPlain_bare htag.1) htag.2 h

theorem isTold_entryNode (e : TableEntry) : IsTold (entryNode e) := by
  refine isTold_branch (by decide) (List.forall_mem_append.2 ⟨?_, isTold_optionNodes (by decide) _⟩)
  simp only [List.forall_mem_cons]
  exact ⟨isTold_leafNode (by decide) _, isTold_leafNode (by decide) _, isTold_leafNode (by decide) _,
    nofun⟩

theorem isTold_tableNodes (t : GateTable) : ∀ n ∈ tableNodes t, IsTold n := by
  simp only [tableNodes, List.forall_mem_append, List.forall_mem_cons]
  refine ⟨⟨⟨isTold_leafNode (by decide) _, nofun⟩, isTold_optionNodes (by decide) _⟩,
    isTold_branch (by decide) ?entries, isTold_branch (by decide) ?cycleTime, isTold_leafNode (by decide) _,
    isTold_branch (by decide) ?baseTime, isTold_leafNode (by decide) _, nofun⟩
  case entries =>
    rw [List.forall_mem_map]
    exact fun e _ => isTold_entryNode e
  case cycleTime =>
    simp only [List.forall_mem_cons]
    exact ⟨isTold_leafNode (by decide) _, isTold_leafNode (by decide) _, nofun⟩
  case baseTime =>
    simp only [List.forall_mem_cons]
    exact ⟨isTold_leafNode (by decide) _, isTold_leafNode (by decide) _, nofun⟩

/-- An element of a name that is qualified by a module, around other nodes. -/
theorem isTold_qualified (module tag : String) (hmodule : ':' ∉ module.toList)
    (htag : isName tag.toList = true ∧ tag ∉ lineTags) {children : List Markup.Node}
    (h : ∀ n ∈ children, IsTold n) : IsTold (.branch (.ofKey (module ++ ":" ++ tag)) children) := by
  have hkey : (module ++ ":" ++ tag).toList = module.toList ++ ':' :: tag.toList := by simp
  refine .branch (Name.isPlain_ofKey (.inr ⟨_, _, hkey, hmodule, htag.1⟩)) ?_ h
  rw [Name.ofKey, hkey, splitColon?_append _ hmodule]
  simpa using htag.2

/-- The text of the node of a table on a port tells the node. -/
theorem isTold_portNode (t : GateTable) (interface : String) : IsTold (portNode t interface) := by
  have htable := isTold_qualified schedBridgeModule "gate-parameter-table" (by decide) (by decide)
    (isTold_tableNodes t)
  have hport := isTold_qualified "ieee802-dot1q-bridge" "bridge-port" (by decide) (by decide)
    (List.forall_mem_singleton.2 htable)
  have hname : IsTold (leafNode "name" (.str interface)) := isTold_leafNode (by decide) _
  have hinterface : IsTold (.branch ⟨"interface", none⟩ _) := isTold_branch (by decide)
    (List.forall_mem_cons.2 ⟨hname, List.forall_mem_singleton.2 hport⟩)
  exact isTold_qualified "ietf-interfaces" "interfaces" (by decide) (by decide)
    (List.forall_mem_singleton.2 hinterface)

/-- Whether an optional element is there is told by what stands behind it. -/
theorem optionNodes_append_inj {tag : String} {m n : Option Int} {ns ms : List Markup.Node}
    (hns : ∀ v rest, ns ≠ leafNode tag v :: rest) (hms : ∀ v rest, ms ≠ leafNode tag v :: rest)
    (h : optionNodes tag m ++ ns = optionNodes tag n ++ ms) : m = n ∧ ns = ms := by
  cases m with
  | none =>
    cases n with
    | none => exact ⟨rfl, h⟩
    | some n => exact absurd h (hns _ _)
  | some m =>
    cases n with
    | none => exact absurd h.symm (hms _ _)
    | some n =>
      obtain ⟨hleaf, hrest⟩ := List.cons.inj h
      exact ⟨by simpa [leafNode] using hleaf, hrest⟩

/-- Different entries have different nodes. -/
theorem entryNode_injective {e f : TableEntry} (h : entryNode e = entryNode f) : e = f := by
  obtain ⟨-, h⟩ := Markup.Node.branch.inj h
  simp only [List.cons_append, List.nil_append, List.cons.injEq, leafNode, Markup.Node.leaf.injEq,
    Body.text.injEq, scalarText_int_inj, scalarText_str_inj, true_and] at h
  obtain ⟨hindex, hoperation, hinterval, hstates⟩ := h
  have hnodes : optionNodes "gate-states-value" e.gateStates ++ [] =
      optionNodes "gate-states-value" f.gateStates ++ [] := by rw [hstates]
  obtain ⟨hstates, -⟩ := optionNodes_append_inj (by simp) (by simp) hnodes
  rw [TableEntry.mk.injEq]
  exact ⟨hindex, hoperation, hinterval, hstates⟩

/-- Different tables of schedules, in the same parts of a second, have different nodes. -/
theorem tableNodes_injective {denominator : Int} {s s' : Schedule} {t u : GateTable}
    (ht : t.Expresses denominator s) (hu : u.Expresses denominator s') (h : tableNodes t = tableNodes u) :
    t = u := by
  rw [tableNodes, tableNodes, List.append_assoc, List.append_assoc] at h
  obtain ⟨henabled, h⟩ := List.cons.inj h
  obtain ⟨hstates, h⟩ := optionNodes_append_inj (by simp [leafNode]) (by simp [leafNode]) h
  obtain ⟨n, hn, -⟩ := ht.numerator
  obtain ⟨m, hm, -⟩ := hu.numerator
  simp only [List.cons.injEq, Markup.Node.branch.injEq, leafNode, Markup.Node.leaf.injEq,
    Body.text.injEq, hn, hm, Number.toValue, scalarText_int_inj, scalarText_bool_inj, true_and,
    and_true] at h henabled
  obtain ⟨hentries, ⟨hnumerator, -⟩, -, ⟨hseconds, hnanoseconds⟩, hchange⟩ := h
  have hentries : t.entries = u.entries :=
    List.map_injective_iff.2 (fun _ _ => entryNode_injective) hentries
  have hnumerator : t.cycleNumerator = u.cycleNumerator := by rw [hn, hm, hnumerator]
  have hdenominator : t.cycleDenominator = u.cycleDenominator := ht.denominator.trans hu.denominator.symm
  have hextension : t.extension = u.extension := ht.extension.trans hu.extension.symm
  cases t
  cases u
  rw [GateTable.mk.injEq]
  exact ⟨henabled, hstates, hentries, hnumerator, hdenominator, hseconds, hnanoseconds, hextension, hchange⟩

/-- The text of a table on a port. -/
def portText (t : GateTable) (interface : String) : String := render 0 [portNode t interface]

/-- The encoder writes the text of a table of a schedule. -/
theorem encode_portTree {denominator : Int} {s : Schedule} {t : GateTable} (h : t.Expresses denominator s)
    (hwritten : t.isWritten = true) (interface : String) :
    encode (portTree t interface) 0 = .ok (portText t interface) := by
  have hoperation : ∀ {es : List GateEntry} {xs : List TableEntry},
      List.Forall₂ TableEntry.Expresses es xs → ∀ x ∈ xs, x.operation ≠ "" := by
    intro es xs hexpresses
    induction hexpresses with
    | nil => exact nofun
    | cons he _ ih => exact List.forall_mem_cons.2 ⟨he.operation_ne, ih⟩
  rw [encode, nodes_portTree (hoperation h.entries) hwritten]
  rfl

/-- Tables of schedules have the same text only when they are the same, on ports of the same name. -/
theorem portText_inj {denominator : Int} {s s' : Schedule} {t u : GateTable}
    (ht : t.Expresses denominator s) (hu : u.Expresses denominator s') {interface interface' : String} :
    portText t interface = portText u interface' ↔ t = u ∧ interface = interface' := by
  constructor
  · intro h
    have hnode := render_injective (List.forall_mem_singleton.2 (isTold_portNode t interface))
      (List.forall_mem_singleton.2 (isTold_portNode u interface')) h
    simp only [List.cons.injEq, and_true, portNode, Markup.Node.branch.injEq, true_and, leafNode,
      Markup.Node.leaf.injEq, Body.text.injEq, scalarText_str_inj] at hnode
    exact ⟨tableNodes_injective ht hu hnode.2, hnode.1⟩
  · rintro ⟨rfl, rfl⟩
    rfl

end Standard

/-! ## The main statement -/

namespace Plugin

variable {σ : Type}

/-- Whatever modules the standard plugin is made to require, the tables that it maps to have a payload for
every target, and the payloads of two tables are the same only when the tables are, for ports of the same
name. -/
theorem standard_payload_lossless (required required' : List SchemaModule) {t u : GateTable}
    (ht : ({ standard with required } : Plugin).Produces σ t)
    (hu : ({ standard with required := required' } : Plugin).Produces σ u) (target target' : Target) :
    ∃ text text', ({ standard with required } : Plugin).payload (.table t) target = .ok text ∧
      ({ standard with required := required' } : Plugin).payload (.table u) target' = .ok text' ∧
      (text = text' ↔ t = u ∧ target.interface = target'.interface) := by
  have htwritten := ht.isWritten (d := .standard) rfl (by decide)
  have huwritten := hu.isWritten (d := .standard) rfl (by decide)
  obtain ⟨s, ht⟩ := ht.expresses (d := .standard) rfl (by decide)
  obtain ⟨s', hu⟩ := hu.expresses (d := .standard) rfl (by decide)
  refine ⟨_, _, ?_, ?_, Standard.portText_inj ht hu⟩
  · exact mapError_eq_ok.2 (Standard.encode_portTree ht htwritten target.interface)
  · exact mapError_eq_ok.2 (Standard.encode_portTree hu huwritten target'.interface)

/-- Two tables that differ in the states of the first entry alone: none, and all gates closed. -/
theorem standard_payload_lossless_closed_gates :
    let s : Schedule := ⟨"s", 1500000000, 1000000, .enabled, [⟨0, 1000000, [], none, .null⟩], none⟩
    let s' : Schedule := { s with entries := [⟨0, 1000000, [0], none, .null⟩] }
    let j : Journal Unit := ⟨[], [], ()⟩
    let target : Target := ⟨{ address := .str "192.0.2.1" }, .str "", "<sw0>", .str "a"⟩
    ∃ t u text text', standard.Maps j s t ∧ standard.Maps j s' u ∧
      standard.payload (.table t) target = .ok text ∧ standard.payload (.table u) target = .ok text' ∧
      text ≠ text' := by
  intro s s' j target
  obtain ⟨t, ht⟩ : ∃ t, standard.Maps j s t := ⟨_, rfl⟩
  obtain ⟨u, hu⟩ : ∃ u, standard.Maps j s' u := ⟨_, rfl⟩
  obtain ⟨text, text', htext, htext', hiff⟩ := standard_payload_lossless standard.required
    standard.required ⟨.schedule s, j, ht⟩ ⟨.schedule s', j, hu⟩ target target
  refine ⟨t, u, text, text', ht, hu, htext, htext', fun heq => ?_⟩
  have hstates := congrArg GateTable.adminGateStates (hiff.1 heq).1
  cases ht
  cases hu
  revert hstates
  decide

end Plugin

end GateRollout
