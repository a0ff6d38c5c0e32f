import GateRollout.Proofs.Markup.CharData
import GateRollout.Proofs.Markup.GateEntry

/-!
# Lines and their indentation

The depth at which a value is written shows in the blanks before its lines and in nothing else, as long as
no text in the value breaks a line.
-/

namespace GateRollout.Markup

/-! ## Lines -/

/-- A text with something put before every line; `atStart` is whether a line begins where it begins. -/
def indentLines (blanks : List Char) : Bool → List Char → List Char
  | _, [] => []
  | atStart, c :: rest => (if atStart then blanks else []) ++ c :: indentLines blanks (c == '\n') rest

/-- A text with blanks put before every line. -/
def indented (width : Nat) (text : String) : String :=
  String.ofList (indentLines (List.replicate width ' ') true text.toList)

example : indented 2 "<a>\n  <b/>\n</a>\n" = "  <a>\n    <b/>\n  </a>\n" := by decide +kernel

/-- One line with the break that ends it. -/
def IsLine (s : String) : Prop := ∃ text : List Char, '\n' ∉ text ∧ s.toList = text ++ ['\n']

theorem indentLines_inside {text : List Char} (h : '\n' ∉ text) (blanks rest : List Char) :
    indentLines blanks false (text ++ '\n' :: rest) = text ++ '\n' :: indentLines blanks true rest := by
  induction text with
  | nil => rfl
  | cons c text ih =>
    rw [List.mem_cons, not_or] at h
    have hc : (c == '\n') = false := by simpa using Ne.symm h.1
    rw [List.cons_append, indentLines, hc, ih h.2]
    rfl

theorem indentLines_line {text : List Char} (h : '\n' ∉ text) (blanks rest : List Char) :
    indentLines blanks true (text ++ '\n' :: rest) =
      blanks ++ (text ++ '\n' :: indentLines blanks true rest) := by
  have hstart (s : List Char) (hs : s ≠ []) :
      indentLines blanks true s = blanks ++ indentLines blanks false s := by
    cases s with
    | nil => exact absurd rfl hs
    | cons c s => rfl
  rw [hstart _ (by simp), indentLines_inside h]

/-- Blanks before every line of some lines are blanks before each of them. -/
theorem indented_join {lines : List String} (h : ∀ l ∈ lines, IsLine l) (width : Nat) :
    indented width (String.join lines) =
      String.join (lines.map fun l => String.ofList (List.replicate width ' ') ++ l) := by
  apply String.toList_injective
  rw [indented, String.toList_ofList]
  induction lines with
  | nil => rfl
  | cons l lines ih =>
    rw [List.forall_mem_cons] at h
    obtain ⟨⟨text, htext, hl⟩, hlines⟩ := h
    rw [String.join_cons, String.toList_append, hl, List.append_assoc, List.singleton_append,
      indentLines_line htext, ih hlines, List.map_cons, String.join_cons, String.toList_append,
      String.toList_append, String.toList_ofList, hl]
    simp

theorem line_add (n k : Nat) (text : String) :
    line ((n : Int) + k) text = String.ofList (List.replicate (2 * n) ' ') ++ line k text := by
  have hwidth : 2 * ((n : Int) + k).toNat = 2 * n + 2 * k := by omega
  rw [line, line, hwidth, List.replicate_add, String.ofList_append, Int.toNat_natCast]
  simp only [String.append_assoc]

mutual

/-- Further in by some levels, the lines of a node have so many more blanks before them. -/
theorem Node.lines_add (n k : Nat) : ∀ node : Node, node.lines ((n : Int) + k) =
    (node.lines k).map fun l => String.ofList (List.replicate (2 * n) ' ') ++ l
  | .leaf name body => by simp only [Node.lines, line_add, List.map_cons, List.map_nil]
  | .mark body => by simp only [Node.lines, line_add, List.map_cons, List.map_nil]
  | .branch name children => by
    have hchildren := linesOf_add n (k + 1) children
    rw [Int.natCast_add, Int.natCast_one, ← Int.add_assoc] at hchildren
    simp only [Node.lines, line_add, hchildren, List.map_cons, List.map_append, List.map_nil]

theorem linesOf_add (n k : Nat) : ∀ nodes : List Node, linesOf ((n : Int) + k) nodes =
    (linesOf k nodes).map fun l => String.ofList (List.replicate (2 * n) ' ') ++ l
  | [] => by simp only [linesOf, List.map_nil]
  | node :: rest => by simp only [linesOf, Node.lines_add n k node, linesOf_add n k rest, List.map_append]

end

/-! ## Nodes without line breaks -/

/-- A name in whose tags no line ends. -/
def Name.IsUnbroken (n : Name) : Prop := '\n' ∉ n.opening.toList ∧ '\n' ∉ n.tag.toList

/-- A body in which no line ends. -/
def Body.IsUnbroken (b : Body) : Prop := '\n' ∉ b.render.toList

theorem isLine_line (indent : Int) {text : String} (h : '\n' ∉ text.toList) : IsLine (line indent text) := by
  refine ⟨List.replicate (2 * indent.toNat) ' ' ++ text.toList, ?_, ?_⟩
  · simp [List.mem_replicate, h]
  · simp [line]

theorem mem_linesOf {indent : Int} {ns : List Node} {l : String} (h : l ∈ linesOf indent ns) :
    ∃ n ∈ ns, l ∈ n.lines indent := by
  induction ns with
  | nil => cases h
  | cons n ns ih =>
    rw [linesOf, List.mem_append] at h
    rcases h with h | h
    · exact ⟨n, List.mem_cons_self, h⟩
    · obtain ⟨m, hm, hl⟩ := ih h
      exact ⟨m, List.mem_cons_of_mem _ hm, hl⟩

/-- What the encoder takes for a line is one. -/
theorem Node.All.isLine {n : Node} (h : n.All Name.IsUnbroken Body.IsUnbroken Body.IsUnbroken)
    (indent : Int) : ∀ l ∈ n.lines indent, IsLine l := by
  induction h generalizing indent with
  | leaf hname hbody =>
    rw [Node.lines, List.forall_mem_singleton]
    have hbody : '\n' ∉ _ := hbody
    exact isLine_line indent (by simp [openTag, closeTag, hname.1, hname.2, hbody])
  | branch hname _ ih =>
    rw [Node.lines, List.forall_mem_cons, List.forall_mem_append, List.forall_mem_singleton]
    refine ⟨isLine_line indent (by simp [openTag, hname.1]), fun l hl => ?_,
      isLine_line indent (by simp [closeTag, hname.2])⟩
    obtain ⟨n, hn, hl⟩ := mem_linesOf hl
    exact ih n hn _ l hl
  | mark hbody =>
    rw [Node.lines, List.forall_mem_singleton]
    exact isLine_line indent hbody

theorem render_indented {ns : List Node}
    (h : ∀ n ∈ ns, n.All Name.IsUnbroken Body.IsUnbroken Body.IsUnbroken) (n : Nat) :
    render n ns = indented (2 * n) (render 0 ns) := by
  have hlines : ∀ l ∈ linesOf 0 ns, IsLine l := by
    intro l hl
    obtain ⟨n, hn, hl⟩ := mem_linesOf hl
    exact (h n hn).isLine 0 l hl
  rw [render, render, indented_join hlines]
  exact congrArg String.join (linesOf_add n 0 ns)

/-! ## Values without line breaks -/

/-- A text, or a map under keys, without a line break. -/
def IsUnbroken : Value → Prop
  | .str s => '\n' ∉ s.toList
  | .map entries => ∀ e ∈ entries, ∀ key, e.1 = .str key → '\n' ∉ key.toList
  | _ => True

/-- A thing of a class that has no line break in its name. -/
def HasUnbrokenClass : Value → Prop
  | .object className => '\n' ∉ className.toList
  | _ => True

theorem isUnbroken_ofKey {key : String} (h : '\n' ∉ key.toList) : (Name.ofKey key).IsUnbroken := by
  generalize hname : Name.ofKey key = name
  have hfor := hname ▸ Name.isFor_ofKey key
  cases hfor with
  | plain => exact ⟨h, h⟩
  | @qualified module tag =>
    have htag : '\n' ∉ tag.toList := by
      rw [toList_qualified] at h
      exact fun hmem => h (List.mem_append_right _ (List.mem_cons_of_mem _ hmem))
    refine ⟨?_, htag⟩
    rw [Name.opening]
    cases huri : namespaceOf? module with
    | none => exact htag
    | some uri =>
      have := not_mem_of_isUriText (c := '\n') (isUriText_of_namespaceOf? huri) (by decide)
      simp [htag, this]

theorem charData_unbroken {data text : List Char} (h : CharData data text) (hdata : '\n' ∉ data) :
    '\n' ∉ text := h.not_mem (by decide) fun hmem => absurd hmem hdata

theorem scalarText_unbroken {v : Value} (hscalar : isScalar v = true) (h : IsUnbroken v) :
    '\n' ∉ (scalarText v).toList := by
  refine charData_unbroken (charData_scalarText v) ?_
  cases v with
  | bool b => cases b <;> decide
  | int n => exact (IsNumberText.intText n).not_mem (by decide) (by decide)
  | float x => exact (IsNumberText.positionalText x).not_mem (by decide) (by decide)
  | str s => exact h
  | _ => cases hscalar

theorem typeName_unbroken {v : Value} (h : HasUnbrokenClass v) : '\n' ∉ v.typeName.toList := by
  cases v with
  | object className => exact h
  | _ =>
    rw [Value.typeName]
    decide

theorem not_mem_ofList {c : Char} {s : List Char} (h : c ∉ s) : c ∉ (String.ofList s).toList := by
  rwa [String.toList_ofList]

theorem bodyOf_unbroken {v : Value} (h : IsUnbroken v) (hclass : HasUnbrokenClass v) :
    (bodyOf v).IsUnbroken := by
  by_cases hnull : v.isNull = true
  · have hnil : '\n' ∉ "<nil/>".toList := by decide
    rwa [bodyOf, if_pos hnull]
  cases hscalar : isScalar v with
  | true =>
    rw [bodyOf_scalar hscalar]
    exact scalarText_unbroken hscalar h
  | false =>
    rw [bodyOf_unsupported (by simpa using hnull) hscalar]
    have hbefore : '\n' ∉ "<unsupported type=\"".toList := not_mem_ofList (by decide)
    have hafter : '\n' ∉ "\"/>".toList := not_mem_ofList (by decide)
    change '\n' ∉ ("<unsupported type=\"" ++ v.typeName ++ "\"/>").toList
    rw [String.toList_append, String.toList_append, List.mem_append, List.mem_append, not_or, not_or]
    exact ⟨⟨hbefore, typeName_unbroken hclass⟩, hafter⟩

theorem withoutModule_unbroken {s : String} (h : '\n' ∉ s.toList) : '\n' ∉ (withoutModule s).toList := by
  rw [withoutModule_eq]
  split
  · exact h
  · rw [afterColon, String.toList_ofList]
    exact fun hmem => h ((List.dropWhile_sublist _).mem (List.mem_of_mem_drop hmem))

theorem allows_of_unbroken {v : Value} (h : IsUnbroken v) (hclass : HasUnbrokenClass v) :
    Allows (fun _ => True) Name.IsUnbroken Body.IsUnbroken Body.IsUnbroken v where
  key := by
    rintro entries rfl e he
    cases hkey : e.1 with
    | str key => exact isUnbroken_ofKey (h e he key hkey)
    | _ => trivial
  text := fun _ _ => trivial
  body := bodyOf_unbroken h hclass
  mark := fun _ => bodyOf_unbroken h hclass
  shortened := by
    rintro s rfl
    change '\n' ∉ (escape (withoutModule s)).toList
    exact charData_unbroken (charData_escape _) (withoutModule_unbroken h)

/-- At any depth, a value without line breaks is written as it is outside, with blanks before its lines. -/
theorem encode_indented {v : Value} (h : v.Everywhere IsUnbroken) (hclass : v.Everywhere HasUnbrokenClass)
    (n : Nat) : encode v n = (encode v 0).map (indented (2 * n)) := by
  have hown : ∀ tag ∈ ownTags, Name.IsUnbroken ⟨tag, none⟩ := by
    have hall : ∀ tag ∈ ownTags, '\n' ∉ tag.toList := by decide
    exact fun tag htag => ⟨hall tag htag, hall tag htag⟩
  have hgives : Gives (fun _ => True) Name.IsUnbroken Body.IsUnbroken Body.IsUnbroken (nodes v) :=
    gives_everywhere hown (fun u hu => allows_of_unbroken (h u hu) (hclass u hu)) .alone trivial
  rw [encode, encode]
  cases hns : nodes v with
  | error e => rfl
  | ok ns =>
    rw [hns] at hgives
    exact congrArg Except.ok (render_indented hgives n)

end GateRollout.Markup
