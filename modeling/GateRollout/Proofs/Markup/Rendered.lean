import GateRollout.Proofs.Markup.CharData

/-!
# Rendered nodes are read in one way

The text of a fragment, with its line breaks and blanks, tells the fragment, as long as it is known of each
name whether its elements stand on one line.  An element without children has the text of an element with
a line break and blanks for data, so without that the text would not tell.
-/

namespace GateRollout.Markup

/-- The text of a node. -/
def nodeText (indent : Int) (n : Node) : List Char := (String.join (n.lines indent)).toList

/-- The text of nodes. -/
def nodesText (indent : Int) (ns : List Node) : List Char := (String.join (linesOf indent ns)).toList

/-- The blanks at the beginning of a line. -/
def blanks (indent : Int) : List Char := List.replicate (2 * indent.toNat) ' '

/-- Nodes that the text tells: the names in them end their tags, the elements of some names stand on one
line and hold nothing but text, and all others have their children on lines of their own. -/
inductive Node.IsReadable (onLine : String → Prop) : Node → Prop
  | leaf {name : Name} {text : String} : name.IsPlain → onLine name.tag → '<' ∉ text.toList →
      IsReadable onLine (.leaf name (.text text))
  | branch {name : Name} {children : List Node} : name.IsPlain → ¬onLine name.tag →
      (∀ n ∈ children, IsReadable onLine n) → IsReadable onLine (.branch name children)

/-! ## Lines -/

theorem toList_line (indent : Int) (text : String) :
    (line indent text).toList = blanks indent ++ (text.toList ++ ['\n']) := by
  rw [line, String.toList_append, String.toList_append, String.toList_ofList, List.append_assoc]
  rfl

theorem nodeText_leaf (indent : Int) (name : Name) (text : String) :
    nodeText indent (.leaf name (.text text)) =
      blanks indent ++ '<' :: (name.opening.toList ++ '>' ::
        (text.toList ++ '<' :: '/' :: (name.tag.toList ++ ['>', '\n']))) := by
  have hbody : (Body.text text).render = text := rfl
  rw [nodeText, Node.lines, String.toList_join, List.flatMap_singleton, toList_line, hbody]
  simp [openTag, closeTag]

theorem nodeText_branch (indent : Int) (name : Name) (children : List Node) :
    nodeText indent (.branch name children) =
      blanks indent ++ '<' :: (name.opening.toList ++ '>' :: '\n' ::
        (nodesText (indent + 1) children ++
          (blanks indent ++ '<' :: '/' :: (name.tag.toList ++ ['>', '\n'])))) := by
  rw [nodeText, Node.lines, String.toList_join, List.flatMap_cons, List.flatMap_append,
    List.flatMap_singleton, toList_line, toList_line, nodesText, String.toList_join]
  simp [openTag, closeTag]

@[simp] theorem nodesText_nil (indent : Int) : nodesText indent [] = [] := rfl

@[simp] theorem nodesText_cons (indent : Int) (n : Node) (rest : List Node) :
    nodesText indent (n :: rest) = nodeText indent n ++ nodesText indent rest := by
  rw [nodesText, linesOf, String.join_append, String.toList_append, nodeText, nodesText]

theorem not_mem_blanks (indent : Int) : '<' ∉ blanks indent := by
  simp [blanks, List.mem_replicate]

/-! ## What begins and what ends -/

variable {onLine : String → Prop}

/-- What may stand behind some nodes: nothing, or the closing tag of the element around them. -/
def IsEnd (s : List Char) : Prop :=
  s = [] ∨ ∃ indent rest, s = blanks indent ++ '<' :: '/' :: rest

/-- A node begins with an opening tag. -/
theorem Node.IsReadable.not_isEnd {n : Node} (h : n.IsReadable onLine) (indent : Int) (r : List Char) :
    ¬IsEnd (nodeText indent n ++ r) := by
  obtain ⟨name, rest, hname, htext⟩ : ∃ (name : Name) (rest : List Char), name.IsPlain ∧
      nodeText indent n ++ r = blanks indent ++ '<' :: (name.opening.toList ++ '>' :: rest) := by
    cases h with
    | leaf hname =>
      rw [nodeText_leaf, List.append_assoc, List.cons_append, List.append_assoc, List.cons_append]
      exact ⟨_, _, hname, rfl⟩
    | branch hname =>
      rw [nodeText_branch, List.append_assoc, List.cons_append, List.append_assoc, List.cons_append]
      exact ⟨_, _, hname, rfl⟩
  rw [htext]
  rintro (hnil | ⟨indent', rest', hend⟩)
  · simp at hnil
  · obtain ⟨-, hopening⟩ := Text.append_cons_inj (not_mem_blanks _) (not_mem_blanks _) hend
    obtain ⟨_, _, -, hatts⟩ := hname.isTag.opening
    have htag := hname.isTag.1
    rw [hatts, List.append_assoc] at hopening
    -- a name is not empty, and no slash stands in it
    generalize name.tag.toList = tag at htag hopening
    cases tag with
    | nil => cases htag
    | cons c tag =>
      obtain rfl : c = '/' := (List.cons.inj hopening).1
      exact not_mem_of_isName htag (by decide) List.mem_cons_self

/-- The opening tag at the beginning of a line tells the name. -/
theorem unique_opening {name name' : Name} {indent indent' : Int} {r s : List Char} (h : name.IsPlain)
    (h' : name'.IsPlain) (heq : blanks indent ++ '<' :: (name.opening.toList ++ '>' :: r) =
      blanks indent' ++ '<' :: (name'.opening.toList ++ '>' :: s)) : name = name' ∧ r = s := by
  obtain ⟨-, heq⟩ := Text.append_cons_inj (not_mem_blanks _) (not_mem_blanks _) heq
  obtain ⟨hopening, heq⟩ := Text.append_cons_inj h.not_mem_opening.2 h'.not_mem_opening.2 heq
  exact ⟨h.opening_injective h' (String.toList_injective hopening), heq⟩

/-! ## Nodes -/

/-- The text of nodes tells the nodes and where they end, where the text of each of the nodes does. -/
theorem nodesText_unique {ns ms : List Node} {indent : Int} {r s : List Char}
    (hns : ∀ n ∈ ns, n.IsReadable onLine) (hms : ∀ m ∈ ms, m.IsReadable onLine)
    (hunique : ∀ n ∈ ns, ∀ (m : Node) (r s : List Char), m.IsReadable onLine →
      nodeText indent n ++ r = nodeText indent m ++ s → n = m ∧ r = s)
    (hr : IsEnd r) (hs : IsEnd s) (h : nodesText indent ns ++ r = nodesText indent ms ++ s) :
    ns = ms ∧ r = s := by
  -- an opening tag is no end, so the two lists end together
  induction ns generalizing ms with
  | nil =>
    cases ms with
    | nil => exact ⟨rfl, h⟩
    | cons m ms =>
      rw [nodesText_nil, List.nil_append, nodesText_cons, List.append_assoc] at h
      rw [h] at hr
      exact absurd hr ((List.forall_mem_cons.1 hms).1.not_isEnd indent _)
  | cons n ns ih =>
    rw [nodesText_cons, List.append_assoc] at h
    rw [List.forall_mem_cons] at hns hunique
    cases ms with
    | nil =>
      rw [nodesText_nil, List.nil_append] at h
      rw [← h] at hs
      exact absurd hs (hns.1.not_isEnd indent _)
    | cons m ms =>
      rw [nodesText_cons, List.append_assoc] at h
      rw [List.forall_mem_cons] at hms
      obtain ⟨rfl, hrest⟩ := hunique.1 m _ _ hms.1 h
      obtain ⟨rfl, hend⟩ := ih hns.2 hms.2 hunique.2 hrest
      exact ⟨rfl, hend⟩

/-- Whatever stands behind it, the text of a node tells the node and where the text ends. -/
theorem Node.IsReadable.unique {n : Node} (hn : n.IsReadable onLine) (indent : Int) (m : Node)
    (r s : List Char) (hm : m.IsReadable onLine) (h : nodeText indent n ++ r = nodeText indent m ++ s) :
    n = m ∧ r = s := by
  induction hn generalizing m r s indent with
  | @leaf name text hname hline htext =>
    cases hm with
    | leaf hname' hline' htext' =>
      simp only [nodeText_leaf, List.append_assoc, List.cons_append] at h
      obtain ⟨rfl, h⟩ := unique_opening hname hname' h
      obtain ⟨hbody, h⟩ := Text.append_cons_inj htext htext' h
      exact ⟨by rw [String.toList_injective hbody], by simpa using h⟩
    | branch hname' hline' _ =>
      simp only [nodeText_leaf, nodeText_branch, List.append_assoc, List.cons_append] at h
      obtain ⟨rfl, -⟩ := unique_opening hname hname' h
      exact absurd hline hline'
  | @branch name children hname hline hchildren ih =>
    cases hm with
    | leaf hname' hline' _ =>
      simp only [nodeText_leaf, nodeText_branch, List.append_assoc, List.cons_append] at h
      obtain ⟨rfl, -⟩ := unique_opening hname hname' h
      exact absurd hline' hline
    | branch hname' hline' hchildren' =>
      simp only [nodeText_branch, List.append_assoc, List.cons_append] at h
      obtain ⟨rfl, h⟩ := unique_opening hname hname' h
      obtain ⟨rfl, h⟩ := nodesText_unique hchildren hchildren' (fun n hn m r s hm => ih n hn _ m r s hm)
        (.inr ⟨_, _, rfl⟩) (.inr ⟨_, _, rfl⟩) (List.cons.inj h).2
      exact ⟨rfl, by simpa using h⟩

/-- Nodes that the text tells have different texts when they are different. -/
theorem render_injective {ns ms : List Node} (hns : ∀ n ∈ ns, n.IsReadable onLine)
    (hms : ∀ m ∈ ms, m.IsReadable onLine) {indent : Int} (h : render indent ns = render indent ms) :
    ns = ms := by
  have htext : nodesText indent ns ++ [] = nodesText indent ms ++ [] :=
    congrArg (· ++ []) (congrArg String.toList h)
  exact (nodesText_unique hns hms (fun n hn => (hns n hn).unique indent) (.inl rfl) (.inl rfl) htext).1

end GateRollout.Markup
