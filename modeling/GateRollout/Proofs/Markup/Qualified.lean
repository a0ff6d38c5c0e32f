import Mathlib.Data.List.Forall2
import GateRollout.Proofs.Markup.Contexts
import GateRollout.Proofs.Markup.Encoded

/-!
# Elements of qualified keys

Every element that is written for a key opens with the namespace of the key's module and is closed by its
tag, wherever the key stands and whatever is under it.  The one exception are the entries of a gate
control list: they open with the bare tag, whatever module qualifies their key.
-/

namespace GateRollout.Markup

/-! ## Names -/

/-- The name of the elements of a key: the key itself, or what is behind its first colon together with
the namespace of the module before it, if the module is known. -/
inductive Name.IsFor : String → Name → Prop
  | plain {key : String} : ':' ∉ key.toList → IsFor key ⟨key, none⟩
  | qualified {module tag : String} : ':' ∉ module.toList →
      IsFor (module ++ ":" ++ tag) ⟨tag, namespaceOf? module⟩

theorem toList_qualified (module tag : String) :
    (module ++ ":" ++ tag).toList = module.toList ++ ':' :: tag.toList := by
  rw [String.append_assoc, String.toList_append, String.toList_append]
  rfl

theorem Name.IsFor.eq_ofKey {key : String} {name : Name} (h : name.IsFor key) : name = ofKey key := by
  cases h with
  | plain hcolon => rw [ofKey, splitColon?_of_not_mem hcolon]
  | qualified hcolon =>
    rw [ofKey, toList_qualified, splitColon?_append _ hcolon]
    simp only [String.ofList_toList]

theorem Name.isFor_ofKey (key : String) : (ofKey key).IsFor key := by
  suffices h : ∃ name : Name, name.IsFor key by
    obtain ⟨name, hname⟩ := h
    exact hname.eq_ofKey ▸ hname
  by_cases hcolon : ':' ∈ key.toList
  · obtain ⟨module, tag, hkey, hmodule⟩ := List.eq_append_cons_of_mem hcolon
    obtain rfl : key = String.ofList module ++ ":" ++ String.ofList tag := by
      apply String.toList_injective
      rw [hkey, toList_qualified, String.toList_ofList, String.toList_ofList]
    exact ⟨_, .qualified (by rwa [String.toList_ofList])⟩
  · exact ⟨_, .plain hcolon⟩

theorem isFor_sched {key : String} (tag : String) (h : key = "ieee802-dot1q-sched" ++ ":" ++ tag) :
    (Name.mk tag (some "urn:ieee:std:802.1Q:yang:ieee802-dot1q-sched")).IsFor key := by
  have huri : namespaceOf? "ieee802-dot1q-sched" =
      some "urn:ieee:std:802.1Q:yang:ieee802-dot1q-sched" := by decide
  rw [h, ← huri]
  exact .qualified (by decide)

/-- A leaf of a gate control entry is of no module. -/
theorem ofKey_field {key : String} {i : Nat} (h : field? (.str key) = some i) :
    Name.ofKey key = ⟨gateEntryFields.getD i "", none⟩ := by
  obtain ⟨hi, hkey, -⟩ := List.idxOf?_eq_some_iff.1 (h : gateEntryFields.idxOf? key = some i)
  have hplain : ∀ s ∈ gateEntryFields, ':' ∉ s.toList := by decide
  have hname : (Name.mk key none).IsFor key := .plain (hplain key (hkey ▸ List.getElem_mem hi))
  rw [← hname.eq_ofKey, List.getD_eq_getElem?_getD, List.getElem?_eq_getElem hi, hkey, Option.getD_some]

/-! ## Elements -/

/-- The text of an element: one line, or the lines of its children between those of its tags. -/
inductive IsElementText (indent : Int) (name : Name) : String → Prop
  | leaf (body : Body) :
      IsElementText indent name (line indent (openTag name ++ body.render ++ closeTag name))
  | branch (children : List Node) :
      IsElementText indent name
        (line indent (openTag name) ++ render (indent + 1) children ++ line indent (closeTag name))

theorem isElementText_leaf (indent : Int) (name : Name) (body : Body) :
    IsElementText indent name (render indent [.leaf name body]) := by
  rw [render, linesOf, linesOf, Node.lines, List.append_nil, String.join_cons, String.join_nil,
    String.append_empty]
  exact .leaf body

theorem isElementText_branch (indent : Int) (name : Name) (children : List Node) :
    IsElementText indent name (render indent [.branch name children]) := by
  rw [render, linesOf, linesOf, Node.lines, List.append_nil, String.join_cons, String.join_append,
    String.join_cons, String.join_nil, String.append_empty, ← String.append_assoc]
  exact .branch children

theorem isElementText_of_branch {name : Name} {r : Except Fault (List Node)} {n : Node}
    (h : (do return .branch name (← r)) = Except.ok n) (indent : Int) :
    IsElementText indent name (render indent [n]) := by
  obtain ⟨children, -, h⟩ := bind_eq_ok.1 h
  cases h
  exact isElementText_branch ..

theorem isElementText_leafOf {name : Name} {v : Value} {n : Node} (h : leafOf name v = .ok n)
    (indent : Int) : IsElementText indent name (render indent [n]) := by
  obtain ⟨-, rfl⟩ := leafOf_eq_ok.1 h
  exact isElementText_leaf ..

/-- The values under a key in some place that are written as one element each. -/
def Place.units : Place → Value → List Value
  | nowhere, _ => []
  | field _, v => [v]
  | _, .list items => items
  | _, .tuple items => items
  | _, v => [v]

/-- The name with which an element of a key opens.  A map in a list of gate control entries has the bare
tag, whatever its key says. -/
def givenName (name : Name) (v part : Value) : Name :=
  match v, part with
  | .list _, .map _ | .tuple _, .map _ =>
    if name.tag == gateEntryTag then ⟨gateEntryTag, none⟩ else name
  | _, _ => name

theorem givenName_self (name : Name) (v : Value) : givenName name v v = name := by
  cases v <;> rfl

theorem isElementText_element {name : Name} {v : Value} {n : Node} (h : element name v = .ok n)
    (indent : Int) : IsElementText indent name (render indent [n]) := by
  unfold element at h
  split at h
  · exact isElementText_of_branch h indent
  · exact isElementText_leafOf h indent

theorem isElementText_itemElement {name : Name} {items : List Value} {part : Value} {n : Node}
    (h : itemElement name part = .ok n) (indent : Int) :
    IsElementText indent (givenName name (.list items) part) (render indent [n]) := by
  unfold itemElement at h
  split at h
  · rw [givenName]
    split at h <;> rename_i hgate
    · rw [if_pos hgate]
      exact isElementText_of_branch h indent
    · rw [if_neg hgate]
      exact isElementText_of_branch h indent
  · exact isElementText_of_branch h indent
  · exact isElementText_of_branch h indent
  · rename_i hmap _ _
    have hname : givenName name (.list items) part = name := by
      cases part <;> first | rfl | exact absurd rfl (hmap _)
    rw [hname]
    exact isElementText_leafOf h indent

theorem isElementText_elementsOfItems {name : Name} {items : List Value} {ns : List Node}
    (h : elementsOfItems name items = .ok ns) (indent : Int) (all : List Value) :
    List.Forall₂
      (fun part n => IsElementText indent (givenName name (.list all) part) (render indent [n])) items ns := by
  induction items generalizing ns with
  | nil =>
    rw [elementsOfItems] at h
    cases h
    exact .nil
  | cons part items ih =>
    rw [elementsOfItems] at h
    obtain ⟨n, hn, h⟩ := bind_eq_ok.1 h
    obtain ⟨rest, hrest, h⟩ := bind_eq_ok.1 h
    cases h
    exact .cons (isElementText_itemElement hn indent) (ih hrest)

theorem isElementText_elements {key : Value} {name : Name} {v : Value} {ns : List Node}
    (h : elements name v = .ok ns) (indent : Int) :
    List.Forall₂ (fun part n => IsElementText indent (givenName name v part) (render indent [n]))
      ((Place.under key).units v) ns := by
  unfold elements at h
  split at h
  · exact isElementText_elementsOfItems h indent _
  · have htuple (all : List Value) : givenName name (.tuple all) = givenName name (.list all) := by
      funext part
      cases part <;> rfl
    rw [htuple]
    exact isElementText_elementsOfItems h indent _
  · obtain ⟨children, -, h⟩ := bind_eq_ok.1 h
    cases h
    exact .cons (isElementText_branch ..) .nil
  · rename_i hlist htuple _
    obtain ⟨n, hleaf, h⟩ := bind_eq_ok.1 h
    cases h
    have hunits : (Place.under key).units v = [v] := by
      cases v <;> first | rfl | exact absurd rfl (hlist _) | exact absurd rfl (htuple _)
    rw [hunits]
    refine .cons ?_ .nil
    rw [givenName_self]
    exact isElementText_leafOf hleaf indent

theorem isElementText_field {i : Nat} {v : Value} {ns : List Node} (h : (Place.field i).nodes v = .ok ns)
    (indent : Int) :
    ∃ n, ns = [n] ∧ IsElementText indent ⟨gateEntryFields.getD i "", none⟩ (render indent [n]) := by
  rw [Place.nodes] at h
  cases helement : element ⟨gateEntryFields.getD i "", none⟩ v with
  | error e =>
    rw [helement] at h
    cases h
  | ok n =>
    rw [helement] at h
    obtain rfl := Except.ok.inj h
    dsimp only
    split
    · exact ⟨_, rfl, isElementText_leaf ..⟩
    · exact ⟨_, rfl, isElementText_element helement indent⟩

/-- Every value under a key that is written as an element by itself is written with the key's name, as
far as the entries of gate control lists are left aside. -/
theorem isElementText_nodes {p : Place} {key : String} {v : Value} {ns : List Node}
    (h : (p.entry (.str key)).nodes v = .ok ns) (indent : Int) :
    List.Forall₂
      (fun part n => IsElementText indent (givenName (Name.ofKey key) v part) (render indent [n]))
      ((p.entry (.str key)).units v) ns := by
  rcases p.entry_cases (.str key) with hp | hp | ⟨i, hi, hp⟩ <;> rw [hp] at h ⊢
  · cases h
    exact .nil
  · exact isElementText_elements h indent
  · obtain ⟨n, rfl, hn⟩ := isElementText_field h indent
    refine .cons ?_ .nil
    rwa [givenName_self, ofKey_field hi]

theorem render_eq_join (indent : Int) (ns : List Node) :
    render indent ns = String.join (ns.map fun n => render indent [n]) := by
  induction ns with
  | nil => rfl
  | cons n ns ih =>
    rw [← List.singleton_append, render_append, ih, List.map_append, String.join_append]
    rfl

/-! ## Encoded values -/

theorem encode_eq (v : Value) (indent : Int) :
    encode v indent = (Place.alone.nodes v).map (render indent) := rfl

theorem render_nil (indent : Int) : render indent [] = "" := rfl

/-- What is written for an entry of a map, wherever the map stands in the value: one element for each
unit of the value under the key, each opened and closed with the key's name, a bare tag for an entry of a
gate control list.  Without the entry, the rest of the text is as it was. -/
theorem encode_elements_named {context : List Frame} {before after : Entries} {key : String} {v : Value}
    {name : Name} {indent : Int} {text : String} (hname : name.IsFor key)
    (h : encode (plug context (.map (before ++ (.str key, v) :: after))) indent = .ok text) :
    ∃ first last depth blocks, text = first ++ String.join blocks ++ last ∧
      encode (plug context (.map (before ++ after))) indent = .ok (first ++ last) ∧
      List.Forall₂ (fun part block => IsElementText depth (givenName name v part) block)
        (((context.foldl Frame.place .alone).entry (.str key)).units v) blocks := by
  rw [hname.eq_ofKey]
  rw [encode_eq] at h ⊢
  cases hns : Place.alone.nodes (plug context (.map (before ++ (.str key, v) :: after))) with
  | error e =>
    rw [hns] at h
    cases h
  | ok ns =>
    -- the entry's own nodes, with those of the map around them and those of the whole around these
    obtain ⟨f, hf, haround⟩ := Place.nodes_plug hns
    obtain ⟨_, hmap, -⟩ := map_eq_ok.1 ((haround _).symm.trans hns)
    obtain ⟨g, hg, hentry, hwithout⟩ := Place.nodes_entry hmap
    obtain ⟨ms, hms, -⟩ := map_eq_ok.1 ((hentry _).symm.trans hmap)
    obtain ⟨depth, hdepth⟩ := hf.comp hg
    obtain ⟨first, last, hrender⟩ := hdepth indent
    have hwith : render indent (f (g ms)) = text := by
      rw [haround, hentry, hms] at h
      exact Except.ok.inj h
    refine ⟨first, last, indent + depth, ms.map fun n => render (indent + depth) [n], ?_, ?_, ?_⟩
    · rw [← hwith, ← render_eq_join]
      exact hrender ms
    · rw [haround, hwithout]
      exact congrArg Except.ok ((hrender []).trans (by rw [render_nil, String.append_empty]))
    · exact List.forall₂_map_right_iff.2 (isElementText_nodes hms _)

theorem encode_elements_named_gates :
    ∃ text, encode (.map [(.str "ports", .list [.null, .map [(.str "name", .str "p1"),
        (.str "ieee802-dot1q-sched:gates", .tuple [.int 1, .list [.null], .map []])]])]) 0 = .ok text ∧
      ∃ first last depth blocks, text = first ++ String.join blocks ++ last ∧
        encode (.map [(.str "ports", .list [.null, .map [(.str "name", .str "p1")]])]) 0 =
          .ok (first ++ last) ∧
        List.Forall₂ (fun _ block =>
            IsElementText depth ⟨"gates", some "urn:ieee:std:802.1Q:yang:ieee802-dot1q-sched"⟩ block)
          [Value.int 1, .list [.null], .map []] blocks := by
  let context : List Frame := [.entry [] (.str "ports") [], .item [.null] []]
  let before : Entries := [(.str "name", .str "p1")]
  let gates : Value := .tuple [.int 1, .list [.null], .map []]
  have hencode : ∃ text, encode (plug context
      (.map (before ++ (.str "ieee802-dot1q-sched:gates", gates) :: []))) 0 = .ok text := ⟨_, rfl⟩
  obtain ⟨text, htext⟩ := hencode
  obtain ⟨first, last, depth, blocks, hsplit, hwithout, hblocks⟩ :=
    encode_elements_named (isFor_sched "gates" (by decide)) htext
  refine ⟨text, htext, first, last, depth, blocks, hsplit, hwithout, ?_⟩
  obtain _ | ⟨h₁, _ | ⟨h₂, _ | ⟨h₃, ⟨⟩⟩⟩⟩ := hblocks
  exact .cons h₁ (.cons h₂ (.cons h₃ .nil))

/-! ## Entries of gate control lists -/

theorem IsElementText.quote_mem {indent : Int} {name : Name} {text uri : String}
    (h : IsElementText indent name text) (huri : name.uri = some uri) : '"' ∈ text.toList := by
  have hopen : '"' ∈ (openTag name).toList := by simp [openTag, Name.opening, huri]
  cases h <;> simp [line, hopen]

theorem encode_gateEntry : encode (.map [(.str "ieee802-dot1q-sched:gate-control-entry",
      .list [.map [(.str "index", .int 0)]])]) 0 =
    .ok "<gate-control-entry>\n  <index>0</index>\n</gate-control-entry>\n" := by
  have hnodes : nodes (.map [(.str "ieee802-dot1q-sched:gate-control-entry",
      .list [.map [(.str "index", .int 0)]])]) =
      .ok [.branch ⟨gateEntryTag, none⟩ [.leaf ⟨"index", none⟩ (.text "0")]] := rfl
  rw [encode, hnodes]
  exact congrArg Except.ok (by decide)

/-- Not every element of a qualified key has its namespace: an entry of a gate control list has none. -/
theorem gate_entries_lose_namespace : ¬∀ (context : List Frame) (before after : Entries) (key : String)
    (v : Value) (name : Name) (indent : Int) (text : String), name.IsFor key →
    encode (plug context (.map (before ++ (.str key, v) :: after))) indent = .ok text →
    ∃ first last depth blocks, text = first ++ String.join blocks ++ last ∧
      encode (plug context (.map (before ++ after))) indent = .ok (first ++ last) ∧
      List.Forall₂ (fun _ block => IsElementText depth name block)
        (((context.foldl Frame.place .alone).entry (.str key)).units v) blocks := by
  intro h
  obtain ⟨first, last, depth, blocks, htext, -, hblocks⟩ := h [] [] []
    "ieee802-dot1q-sched:gate-control-entry" (.list [.map [(.str "index", .int 0)]]) _ 0 _
    (isFor_sched "gate-control-entry" (by decide)) encode_gateEntry
  obtain _ | ⟨hblock, ⟨⟩⟩ := hblocks
  -- the namespace stands in quotes, and the text has none
  have hquote := hblock.quote_mem rfl
  have hmem := congrArg (fun s => '"' ∈ s.toList) htext
  simp [hquote] at hmem

end GateRollout.Markup
