import GateRollout.Proofs.Markup.CharData

/-!
# Markup as a row of tags

A text of markup falls into its tags, each with the character data up to the next one.  The row of tags
is told from the text alone, and what stands under a name, or how often it stands there, from the row.
-/

namespace GateRollout.Markup

/-- A tag, and the text behind it up to the next tag. -/
structure Tag where
  /-- What stands between the brackets. -/
  inside : List Char
  data : List Char

/-- The name in a tag, which ends at its attributes; the name of a closing tag has a slash in front. -/
def Tag.name (t : Tag) : List Char := t.inside.takeWhile (· != ' ')

/-- The tags of a text, in their order. -/
def tagsOf : List Char → List Tag
  | [] => []
  | c :: rest =>
    if c == '<' then
      ⟨rest.takeWhile (· != '>'), ((rest.dropWhile (· != '>')).drop 1).takeWhile (· != '<')⟩ ::
        tagsOf rest
    else tagsOf rest

/-- A tag begins an element of a name; one that closes itself has a slash behind the name. -/
def Tag.begins (t : Tag) (tag : String) : Bool :=
  t.name == tag.toList || t.name == tag.toList ++ ['/']

/-- The data under a name among some tags. -/
def dataUnder (tag : String) (tags : List Tag) : List String :=
  (tags.filter (·.begins tag)).map fun t => String.ofList t.data

/-- The data of the elements of a name in a text of markup, in their order: for each the text between the
tag that begins it and the tag that comes next. -/
def textsUnder (tag : String) (markup : String) : List String := dataUnder tag (tagsOf markup.toList)

/-! ## Texts of tags -/

/-- The text of a tag. -/
def Tag.text (t : Tag) : List Char := '<' :: (t.inside ++ '>' :: t.data)

/-- A tag that is read where its text begins and up to where it ends. -/
structure Tag.IsReadable (t : Tag) : Prop where
  inside : '<' ∉ t.inside ∧ '>' ∉ t.inside
  data : '<' ∉ t.data

/-- No tag begins in data. -/
theorem tagsOf_data_append {x : List Char} (h : '<' ∉ x) (y : List Char) :
    tagsOf (x ++ y) = tagsOf y := by
  induction x with
  | nil => rfl
  | cons c x ih =>
    rw [List.mem_cons, not_or] at h
    rw [List.cons_append, tagsOf, if_neg (by simpa using Ne.symm h.1), ih h.2]

/-- The data of a tag ends at the next tag, or with the text. -/
theorem takeWhile_data {data : List Char} (h : '<' ∉ data) (tags : List Tag) :
    (data ++ tags.flatMap Tag.text).takeWhile (· != '<') = data := by
  cases tags with
  | nil =>
    rw [List.flatMap_nil, List.append_nil, Text.takeWhile_of_not_mem h]
  | cons t tags =>
    rw [List.flatMap_cons, Tag.text, List.cons_append]
    exact (Text.takeWhile_append_cons h _).1

/-- A text of tags falls into these tags. -/
theorem tagsOf_text {tags : List Tag} (h : ∀ t ∈ tags, t.IsReadable) :
    tagsOf (tags.flatMap Tag.text) = tags := by
  induction tags with
  | nil => rfl
  | cons t tags ih =>
    obtain ⟨⟨⟨hopen, hclose⟩, hdata⟩, hrest⟩ := List.forall_mem_cons.1 h
    rw [List.flatMap_cons, Tag.text, List.cons_append, List.append_assoc, tagsOf, if_pos (by decide),
      tagsOf_data_append hopen, List.cons_append, tagsOf, if_neg (by decide), tagsOf_data_append hdata,
      ih hrest, (Text.takeWhile_append_cons hclose _).1, (Text.takeWhile_append_cons hclose _).2,
      List.drop_one, List.tail_cons, takeWhile_data hdata]

/-! ## Elements -/

/-- The tags of an element: the opening one with the text behind it, those within, and the closing one. -/
def elementTags (n : Name) (data : String) (inner : List Tag) : List Tag :=
  ⟨n.opening.toList, data.toList⟩ :: (inner ++ [⟨'/' :: n.tag.toList, []⟩])

/-- The tags of an element with text alone. -/
def leafTags (tag text : String) : List Tag := elementTags ⟨tag, none⟩ text []

theorem elementTags_text (n : Name) (data : String) (inner : List Tag) :
    (elementTags n data inner).flatMap Tag.text =
      (openTag n).toList ++ (data.toList ++ inner.flatMap Tag.text ++ (closeTag n).toList) := by
  simp [elementTags, Tag.text, openTag, closeTag]

/-- The tags of an element are read back, and make up a well-formed element. -/
structure IsElement (tags : List Tag) : Prop where
  readable : ∀ t ∈ tags, t.IsReadable
  element : Element (fun _ => True) (tags.flatMap Tag.text)

/-- Likewise for the tags of what stands within an element. -/
structure IsContent (tags : List Tag) : Prop where
  readable : ∀ t ∈ tags, t.IsReadable
  content : Content (fun _ => True) (tags.flatMap Tag.text)

theorem IsElement.isContent {tags : List Tag} (h : IsElement tags) : IsContent tags :=
  ⟨h.readable, .element h.element⟩

theorem IsContent.nil : IsContent [] := ⟨nofun, .nil⟩

theorem IsContent.append {tags tags' : List Tag} (h : IsContent tags) (h' : IsContent tags') :
    IsContent (tags ++ tags') := by
  refine ⟨List.forall_mem_append.2 ⟨h.readable, h'.readable⟩, ?_⟩
  rw [List.flatMap_append]
  exact .append h.content h'.content

theorem IsContent.flatMap {α : Type} {f : α → List Tag} {items : List α}
    (h : ∀ a ∈ items, IsContent (f a)) : IsContent (items.flatMap f) := by
  induction items with
  | nil => exact .nil
  | cons a rest ih =>
    rw [List.forall_mem_cons] at h
    rw [List.flatMap_cons]
    exact h.1.append (ih h.2)

theorem isElement_elementTags {n : Name} {data : List Char} {text : String} {inner : List Tag}
    (hn : n.IsPlain) (hdata : CharData data text.toList) (h : IsContent inner) :
    IsElement (elementTags n text inner) := by
  constructor
  · rw [elementTags, List.forall_mem_cons, List.forall_mem_append, List.forall_mem_singleton]
    obtain ⟨hopen, hclose, -⟩ := hn.not_mem_tag
    refine ⟨⟨hn.not_mem_opening, hdata.not_mem_bracket⟩, h.readable, ⟨?_, List.not_mem_nil⟩⟩
    simpa using ⟨hopen, hclose⟩
  · rw [elementTags_text]
    exact hn.isTag.element (.append (.data trivial hdata) h.content)

theorem IsContent.around {n : Name} (hn : n.IsPlain) {tags : List Tag} (h : IsContent tags) :
    IsContent (elementTags n "" tags) := (isElement_elementTags hn .nil h).isContent

theorem IsContent.scalar {tag : String} (htag : isName tag.toList = true) (v : Value) :
    IsContent (leafTags tag (scalarText v)) :=
  (isElement_elementTags (Name.isPlain_bare htag) (charData_scalarText v) .nil).isContent

/-! ## Rows that determine what they were written for -/

section

open Text

variable {α β : Type}

/-- The row of an element tells its text and what the row within tells. -/
theorem determines_elementTags {inner : α → List Tag} {v : α → β} (h : Determines inner v)
    (n : α → Name) (data : α → String) :
    Determines (fun a => elementTags (n a) (data a) (inner a)) fun a => (data a, v a) := by
  intro a b r s hab
  simp only [elementTags, List.cons_append, List.append_assoc, List.cons.injEq, Tag.mk.injEq] at hab
  obtain ⟨⟨-, hdata⟩, hab⟩ := hab
  obtain ⟨hv, hab⟩ := h hab
  exact ⟨Prod.ext (String.toList_injective hdata) hv, (List.cons.inj hab).2⟩

theorem determines_leafTags (tag : String) (text : α → String) :
    Determines (fun a => leafTags tag (text a)) text :=
  (determines_elementTags (Determines.const []) (fun _ => ⟨tag, none⟩) text).imp fun _ _ h =>
    (Prod.mk.inj h).1

/-- Rows that begin with tags of two kinds are not alike. -/
theorem apart_of_cons {f : α → List Tag} {g : β → List Tag} {x y : List Char} (hxy : x ≠ y)
    (hf : ∀ a, ∃ data rest, f a = ⟨x, data⟩ :: rest) (hg : ∀ b, ∃ data rest, g b = ⟨y, data⟩ :: rest) :
    Apart f g := by
  intro a b r s hab
  obtain ⟨_, _, ha⟩ := hf a
  obtain ⟨_, _, hb⟩ := hg b
  rw [ha, hb] at hab
  exact hxy (Tag.mk.inj (List.cons.inj hab).1).1

end

/-! ## What stands under a name -/

@[simp] theorem dataUnder_nil (tag : String) : dataUnder tag [] = [] := rfl

@[simp] theorem dataUnder_append (tag : String) (tags tags' : List Tag) :
    dataUnder tag (tags ++ tags') = dataUnder tag tags ++ dataUnder tag tags' := by
  simp [dataUnder]

@[simp] theorem dataUnder_flatMap {α : Type} (tag : String) (items : List α) (f : α → List Tag) :
    dataUnder tag (items.flatMap f) = items.flatMap fun a => dataUnder tag (f a) := by
  induction items with
  | nil => rfl
  | cons a rest ih => rw [List.flatMap_cons, dataUnder_append, ih, List.flatMap_cons]

theorem dataUnder_singleton (tag : String) (t : Tag) :
    dataUnder tag [t] = if t.begins tag then [String.ofList t.data] else [] := by
  simp only [dataUnder, List.filter_cons, List.filter_nil]
  split <;> rfl

/-- The opening tag of an element begins it, and nothing else. -/
theorem begins_opening {n : Name} (hn : n.IsPlain) (data : List Char) (tag : String) :
    Tag.begins ⟨n.opening.toList, data⟩ tag = decide (n.tag = tag) := by
  have hslash : n.tag.toList ≠ tag.toList ++ ['/'] := by
    intro h
    exact not_mem_of_isName (c := '/') hn.isTag.1 (by decide) (by simp [h])
  rw [Tag.begins, Tag.name, hn.takeWhile_opening, Bool.eq_iff_iff]
  simp [hslash, String.toList_inj]

/-- A closing tag begins no element. -/
theorem begins_closing {n : Name} (hn : n.IsPlain) {tag : String} (htag : isName tag.toList = true) :
    Tag.begins ⟨'/' :: n.tag.toList, []⟩ tag = false := by
  have hname : Tag.name ⟨'/' :: n.tag.toList, []⟩ = '/' :: n.tag.toList :=
    Text.takeWhile_of_not_mem (by simpa using hn.not_mem_tag.2.2)
  have hslash : '/' ∉ tag.toList := not_mem_of_isName htag (by decide)
  rw [Tag.begins, hname]
  generalize tag.toList = name at htag hslash
  cases name with
  | nil => cases htag
  | cons c name =>
    have hne : '/' ≠ c := fun hc => hslash (hc ▸ List.mem_cons_self)
    simp [hne]

/-- Under a name stands the data of an element of this name, and what stands there within the element. -/
theorem dataUnder_elementTags {n : Name} (hn : n.IsPlain) {tag : String}
    (htag : isName tag.toList = true) (data : String) (inner : List Tag) :
    dataUnder tag (elementTags n data inner) =
      (if n.tag = tag then [data] else []) ++ dataUnder tag inner := by
  rw [elementTags, ← List.singleton_append, dataUnder_append, dataUnder_append, dataUnder_singleton,
    dataUnder_singleton, begins_opening hn, begins_closing hn htag, String.ofList_toList]
  simp

/-- An element that closes itself, and one with an attribute. -/
example : textsUnder "b" "<a><b x=\"y\">1</b><c>2</c><b/>3</a>" = ["1", "3"] := by decide

end GateRollout.Markup
