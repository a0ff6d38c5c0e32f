import GateRollout.Proofs.Markup.Nodes
import GateRollout.Text.Bands

/-!
# Well-formed fragments

The grammar of a fragment of markup, character by character: elements, each closed by the end tag of
its own bare name, with attributes in quotes, and character data with its special characters written as
entities.  The text of a node lies in the grammar when the names and the data within the node do.
-/

namespace GateRollout.Markup

/-! ## Grammar -/

/-- The characters that begin a name. -/
def nameStarts : Text.Bands :=
  [0x3A, 0x3B, 0x41, 0x5B, 0x5F, 0x60, 0x61, 0x7B, 0xC0, 0xD7, 0xD8, 0xF7, 0xF8, 0x300, 0x370, 0x37E,
    0x37F, 0x2000, 0x200C, 0x200E, 0x2070, 0x2190, 0x2C00, 0x2FF0, 0x3001, 0xD800, 0xF900, 0xFDD0,
    0xFDF0, 0xFFFE, 0x10000, 0xF0000]

/-- The characters that stand in a name: also the hyphen, the point, digits and marks. -/
def nameMembers : Text.Bands :=
  [0x2D, 0x2F, 0x30, 0x3B, 0x41, 0x5B, 0x5F, 0x60, 0x61, 0x7B, 0xB7, 0xB8, 0xC0, 0xD7, 0xD8, 0xF7,
    0xF8, 0x37E, 0x37F, 0x2000, 0x200C, 0x200E, 0x203F, 0x2041, 0x2070, 0x2190, 0x2C00, 0x2FF0,
    0x3001, 0xD800, 0xF900, 0xFDD0, 0xFDF0, 0xFFFE, 0x10000, 0xF0000]

/-- The name of an element or an attribute. -/
def isName : List Char → Bool
  | [] => false
  | c :: rest => nameStarts.has c && rest.all nameMembers.has

/-- What stands between the quotes of an attribute. -/
def isAttributeText (s : List Char) : Bool := s.all fun c => c != '<' && c != '&' && c != '"'

/-- White space between the parts of a fragment. -/
def isBlankText (s : List Char) : Bool :=
  s.all fun c => c == ' ' || c == '\t' || c == '\n' || c == '\r'

/-- Attributes as they stand behind the name in a tag: each after a blank, with its text in quotes, no
two of one name. -/
inductive Attributes : List (List Char) → List Char → Prop
  | nil : Attributes [] []
  | cons {names : List (List Char)} {name text rest : List Char} :
      isName name = true → name ∉ names → isAttributeText text = true → Attributes names rest →
      Attributes (name :: names) (' ' :: (name ++ '=' :: '"' :: (text ++ '"' :: rest)))

/-- The characters that have no place in character data, and the names of their entities. -/
def entities : List (Char × List Char) :=
  [('&', ['a', 'm', 'p']), ('<', ['l', 't']), ('>', ['g', 't'])]

/-- Character data: what is read, and how it is written. -/
inductive CharData : List Char → List Char → Prop
  | nil : CharData [] []
  | plain {c : Char} {data text : List Char} : (∀ e ∈ entities, e.1 ≠ c) → CharData data text →
      CharData (c :: data) (c :: text)
  | entity {c : Char} {name data text : List Char} : (c, name) ∈ entities → CharData data text →
      CharData (c :: data) ('&' :: (name ++ ';' :: text))

mutual

/-- An element: a tag that closes itself, or content between two tags of one name. -/
inductive Element (P : List Char → Prop) : List Char → Prop
  | closed {name atts : List Char} {names : List (List Char)} : isName name = true →
      Attributes names atts → Element P ('<' :: (name ++ (atts ++ ['/', '>'])))
  | tagged {name atts content : List Char} {names : List (List Char)} : isName name = true →
      Attributes names atts → Content P content →
      Element P ('<' :: (name ++ (atts ++ '>' :: (content ++ '<' :: '/' :: (name ++ ['>'])))))

/-- What stands within an element: elements, and character data that reads as `P` allows. -/
inductive Content (P : List Char → Prop) : List Char → Prop
  | nil : Content P []
  | data {data text : List Char} : P data → CharData data text → Content P text
  | element {s : List Char} : Element P s → Content P s
  | append {s t : List Char} : Content P s → Content P t → Content P (s ++ t)

end

/-- A fragment: elements, with white space between them. -/
inductive Fragment (P : List Char → Prop) : List Char → Prop
  | nil : Fragment P []
  | blank {s : List Char} : isBlankText s = true → Fragment P s
  | element {s : List Char} : Element P s → Fragment P s
  | append {s t : List Char} : Fragment P s → Fragment P t → Fragment P (s ++ t)

variable {P : List Char → Prop}

/-! ## Character data -/

theorem CharData.self {s : List Char} (h : ∀ c ∈ s, ∀ e ∈ entities, e.1 ≠ c) : CharData s s := by
  induction s with
  | nil => exact .nil
  | cons c s ih => exact .plain (h c List.mem_cons_self) (ih fun d hd => h d (List.mem_cons_of_mem _ hd))

theorem CharData.of_blank {s : List Char} (h : isBlankText s = true) : CharData s s := by
  refine CharData.self fun c hc e he => ?_
  simp only [isBlankText, List.all_eq_true, Bool.or_eq_true, beq_iff_eq] at h
  simp only [entities, List.mem_cons, List.not_mem_nil, or_false] at he
  rcases h c hc with ((rfl | rfl) | rfl) | rfl <;> rcases he with rfl | rfl | rfl <;> decide

theorem escapeChar_of_plain {c : Char} (h : ∀ e ∈ entities, e.1 ≠ c) : escapeChar c = [c] := by
  simp only [entities, List.forall_mem_cons] at h
  unfold escapeChar
  split
  · exact absurd rfl h.1
  · exact absurd rfl h.2.1
  · exact absurd rfl h.2.2.1
  · rfl

theorem escapeChar_of_entity {c : Char} {name : List Char} (h : (c, name) ∈ entities) :
    escapeChar c = '&' :: (name ++ [';']) := by
  simp only [entities, List.mem_cons, Prod.mk.injEq, List.not_mem_nil, or_false] at h
  rcases h with ⟨rfl, rfl⟩ | ⟨rfl, rfl⟩ | ⟨rfl, rfl⟩ <;> rfl

/-- Escaped text reads as the text. -/
theorem charData_escapeChars (s : List Char) : CharData s (escapeChars s) := by
  induction s with
  | nil => exact .nil
  | cons c s ih =>
    change CharData (c :: s) (escapeChar c ++ escapeChars s)
    by_cases hc : ∀ e ∈ entities, e.1 ≠ c
    · rw [escapeChar_of_plain hc]
      exact .plain hc ih
    · obtain ⟨⟨_, name⟩, he, rfl⟩ : ∃ e ∈ entities, e.1 = c := by simpa using hc
      rw [escapeChar_of_entity he]
      simpa using CharData.entity he ih

theorem charData_escape (s : String) : CharData s.toList (escape s).toList := by
  rw [toList_escape]
  exact charData_escapeChars s.toList

/-- Where white space may be read within elements, a fragment is content. -/
theorem Fragment.content (hblank : ∀ s, isBlankText s = true → P s) {s : List Char}
    (h : Fragment P s) : Content P s := by
  induction h with
  | nil => exact .nil
  | blank hs => exact .data (hblank _ hs) (.of_blank hs)
  | element he => exact .element he
  | append _ _ ihs iht => exact .append ihs iht

/-! ## Nodes -/

/-- A name that may stand in a tag. -/
def Name.IsTag (n : Name) : Prop :=
  isName n.tag.toList = true ∧ ∀ uri, n.uri = some uri → isAttributeText uri.toList = true

/-- A mark that is an element of its own. -/
def Body.IsMark : Body → Prop
  | .text _ => False
  | .nil => True
  | .unsupported typeName => isAttributeText typeName.toList = true

/-- A body that stands within an element: a mark, or character data that reads as `P` allows. -/
def Body.IsContent (P : List Char → Prop) (body : Body) : Prop :=
  body.IsMark ∨ ∃ text data, body = .text text ∧ P data ∧ CharData data text.toList

/-- Behind the name of a tag stand its attributes. -/
theorem Name.IsTag.opening {n : Name} (h : n.IsTag) :
    ∃ names atts, Attributes names atts ∧ n.opening.toList = n.tag.toList ++ atts := by
  rw [Name.opening]
  cases huri : n.uri with
  | none => exact ⟨[], [], .nil, by simp⟩
  | some uri =>
    have hname : isName "xmlns".toList = true := by decide
    exact ⟨_, _, .cons hname List.not_mem_nil (h.2 uri huri) .nil, by simp⟩

theorem Body.IsMark.element {body : Body} (h : body.IsMark) : Element P body.render.toList := by
  cases body with
  | text _ => cases h
  | nil =>
    have hname : isName "nil".toList = true := by decide
    have helement := Element.closed (P := P) hname .nil
    change Element P "<nil/>".toList
    simpa using helement
  | unsupported typeName =>
    have hname : isName "unsupported".toList = true := by decide
    have htype : isName "type".toList = true := by decide
    have helement := Element.closed (P := P) hname (.cons htype List.not_mem_nil h .nil)
    change Element P ("<unsupported type=\"" ++ typeName ++ "\"/>").toList
    simpa using helement

theorem Body.IsContent.content {body : Body} (h : body.IsContent P) :
    Content P body.render.toList := by
  rcases h with h | ⟨text, data, rfl, hdata, htext⟩
  · exact .element h.element
  · exact .data hdata htext

/-- Content between the two tags of a name is an element. -/
theorem Name.IsTag.element {n : Name} (h : n.IsTag) {content : List Char} (hcontent : Content P content) :
    Element P ((openTag n).toList ++ (content ++ (closeTag n).toList)) := by
  obtain ⟨names, atts, hatts, hopening⟩ := h.opening
  simpa [openTag, closeTag, hopening] using Element.tagged h.1 hatts hcontent

/-- A line is a fragment where its text is one. -/
theorem Fragment.line (indent : Int) {text : String} (h : Fragment P text.toList) :
    Fragment P (line indent text).toList := by
  rw [Markup.line, String.toList_append, String.toList_append, String.toList_ofList]
  exact .append (.append (.blank (by simp [isBlankText])) h) (.blank (by decide))

theorem fragment_linesOf {nodes : List Node} {indent : Int}
    (h : ∀ n ∈ nodes, Fragment P (String.join (n.lines indent)).toList) :
    Fragment P (String.join (linesOf indent nodes)).toList := by
  induction nodes with
  | nil => exact .nil
  | cons n rest ih =>
    rw [linesOf, String.join_append, String.toList_append]
    exact .append (h n List.mem_cons_self) (ih fun m hm => h m (List.mem_cons_of_mem _ hm))

/-- The text of a node is a fragment. -/
theorem Node.All.fragment (hblank : ∀ s, isBlankText s = true → P s) {n : Node}
    (h : n.All Name.IsTag (Body.IsContent P) Body.IsMark) (indent : Int) :
    Fragment P (String.join (n.lines indent)).toList := by
  induction h generalizing indent with
  | leaf hname hbody =>
    rw [Node.lines, String.join_cons, String.join_nil, String.append_empty]
    refine Fragment.line indent (.element ?_)
    simpa using hname.element hbody.content
  | @branch name children hname _ ih =>
    have hchildren := fragment_linesOf fun n hn => ih n hn (indent + 1)
    -- the line break of the opening tag and the blanks of the closing one are within the element
    have hcontent : Content P ('\n' :: ((String.join (linesOf (indent + 1) children)).toList ++
        List.replicate (2 * indent.toNat) ' ')) :=
      .append (s := ['\n']) (.data (hblank _ (by decide)) (.of_blank (by decide)))
        ((Fragment.append hchildren (.blank (by simp [isBlankText]))).content hblank)
    have helement := hname.element hcontent
    rw [Node.lines]
    simpa [line] using Fragment.append (.append (.blank (s := List.replicate (2 * indent.toNat) ' ')
      (by simp [isBlankText])) (.element helement)) (.blank (s := ['\n']) (by decide))
  | mark hbody =>
    rw [Node.lines, String.join_cons, String.join_nil, String.append_empty]
    exact Fragment.line indent (.element hbody.element)

/-- The text of nodes is a fragment. -/
theorem fragment_render (hblank : ∀ s, isBlankText s = true → P s) {nodes : List Node}
    (h : ∀ n ∈ nodes, n.All Name.IsTag (Body.IsContent P) Body.IsMark) (indent : Int) :
    Fragment P (render indent nodes).toList :=
  fragment_linesOf fun n hn => (h n hn).fragment hblank indent

end GateRollout.Markup
