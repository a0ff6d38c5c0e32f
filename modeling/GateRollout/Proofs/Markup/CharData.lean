import GateRollout.Proofs.Markup.Encoded
import GateRollout.Proofs.Text.Numeral

/-!
# Tags and character data are told apart

Character data holds no bracket that opens a tag, and reading its entities from left to right gives the
one text that it reads as.  So escaping loses nothing of a text, and the text of a scalar ends where the
next tag begins and tells the scalar from all others of its kind.  The names that the schema modules give
to elements hold no bracket either, so a tag ends at its bracket.
-/

namespace GateRollout.Markup

/-- A character that stands in no entity is written only where it is read and has no entity itself. -/
theorem CharData.not_mem {c : Char} {data text : List Char} (h : CharData data text)
    (hname : ∀ e ∈ entities, c ∉ '&' :: (e.2 ++ [';'])) (hc : c ∈ data → ∃ e ∈ entities, e.1 = c) :
    c ∉ text := by
  induction h with
  | nil => exact List.not_mem_nil
  | plain hplain _ ih =>
    rintro (_ | ⟨_, hmem⟩)
    · obtain ⟨e, he, heq⟩ := hc List.mem_cons_self
      exact hplain e he heq
    · exact ih (fun hdata => hc (List.mem_cons_of_mem _ hdata)) hmem
  | @entity _ name _ text he _ ih =>
    intro hmem
    rw [show '&' :: (name ++ ';' :: text) = '&' :: (name ++ [';']) ++ text by simp,
      List.mem_append] at hmem
    exact hmem.elim (hname _ he) (ih fun hdata => hc (List.mem_cons_of_mem _ hdata))

theorem CharData.not_mem_bracket {data text : List Char} (h : CharData data text) : '<' ∉ text :=
  h.not_mem (by decide) fun _ => ⟨('<', ['l', 't']), by decide, rfl⟩

/-- Character data that begins with a character that stands for itself is no entity. -/
theorem ne_amp_of_plain {c : Char} (h : ∀ e ∈ entities, e.1 ≠ c) : c ≠ '&' :=
  fun hc => h ('&', ['a', 'm', 'p']) (by decide) hc.symm

/-- Character data with its entities read from left to right; all else stands for itself. -/
def unescapeChars : List Char → List Char
  | '&' :: 'a' :: 'm' :: 'p' :: ';' :: rest => '&' :: unescapeChars rest
  | '&' :: 'l' :: 't' :: ';' :: rest => '<' :: unescapeChars rest
  | '&' :: 'g' :: 't' :: ';' :: rest => '>' :: unescapeChars rest
  | c :: rest => c :: unescapeChars rest
  | [] => []

theorem unescapeChars_cons {c : Char} (h : c ≠ '&') (rest : List Char) :
    unescapeChars (c :: rest) = c :: unescapeChars rest := by
  rw [unescapeChars] <;> exact fun _ hc => absurd hc h

theorem unescapeChars_entity {c : Char} {name : List Char} (h : (c, name) ∈ entities) (rest : List Char) :
    unescapeChars ('&' :: (name ++ ';' :: rest)) = c :: unescapeChars rest := by
  simp only [entities, List.mem_cons, Prod.mk.injEq, List.not_mem_nil, or_false] at h
  rcases h with ⟨rfl, rfl⟩ | ⟨rfl, rfl⟩ | ⟨rfl, rfl⟩ <;> rfl

/-- Reading the entities of character data gives what the data reads as. -/
theorem CharData.unescapeChars_eq {data text : List Char} (h : CharData data text) :
    unescapeChars text = data := by
  induction h with
  | nil => rfl
  | plain hc _ ih => rw [unescapeChars_cons (ne_amp_of_plain hc), ih]
  | entity he _ ih => rw [unescapeChars_entity he, ih]

theorem CharData.unique {data data' text : List Char} (h : CharData data text) (h' : CharData data' text) :
    data = data' := by
  rw [← h.unescapeChars_eq, h'.unescapeChars_eq]

/-- In character data every ampersand begins an entity. -/
theorem CharData.begins_entity {data text after : List Char} (h : CharData data text)
    (hamp : '&' :: after <:+ text) : ∃ e ∈ entities, e.2 ++ [';'] <+: after := by
  induction h with
  | nil => exact absurd (List.suffix_nil.1 hamp) (List.cons_ne_nil _ _)
  | plain hc _ ih =>
    rcases List.suffix_cons_iff.1 hamp with heq | hsuffix
    · exact absurd (List.cons.inj heq).1.symm (ne_amp_of_plain hc)
    · exact ih hsuffix
  | @entity c name _ text he _ ih =>
    rw [List.append_cons] at hamp
    rcases List.suffix_cons_iff.1 hamp with heq | hsuffix
    · obtain ⟨-, rfl⟩ := List.cons.inj heq
      exact ⟨(c, name), he, List.prefix_append _ _⟩
    · -- no entity holds another ampersand behind its first
      have hname : ∀ e ∈ entities, '&' ∉ e.2 ++ [';'] := by decide
      exact ih (Text.suffix_of_suffix_append (hname _ he) hsuffix)

/-! ## Escaping -/

/-- A text with its entities read. -/
def unescape (s : String) : String := String.ofList (unescapeChars s.toList)

theorem unescape_escape (s : String) : unescape (escape s) = s := by
  rw [unescape, (charData_escape s).unescapeChars_eq, String.ofList_toList]

/-- No two texts are escaped alike. -/
theorem escape_injective {s t : String} (h : escape s = escape t) : s = t := by
  rw [← unescape_escape s, h, unescape_escape]

theorem escape_append (s t : String) : escape (s ++ t) = escape s ++ escape t := by
  apply String.toList_injective
  rw [String.toList_append, toList_escape, toList_escape, toList_escape, String.toList_append,
    escapeChars_append]

/-- The special characters are replaced one after the other in the whole text, and that replaces each
character on its own.  So the parts of a text are escaped apart from each other, what is written holds no
bracket and no ampersand but where an entity begins, and reading its entities gives back the text, whatever
entities the text holds itself. -/
theorem escape_reversible (s t : String) :
    (escape s).toList = s.toList.flatMap escapeChar ∧
      escape (s ++ t) = escape s ++ escape t ∧
      ('<' ∉ (escape s).toList ∧ '>' ∉ (escape s).toList) ∧
      (∀ after, '&' :: after <:+ (escape s).toList → ∃ e ∈ entities, e.2 ++ [';'] <+: after) ∧
      unescape (escape s) = s := by
  have hdata := charData_escape s
  refine ⟨toList_escape s, escape_append s t, ⟨hdata.not_mem_bracket, ?_⟩, ?_, unescape_escape s⟩
  · exact hdata.not_mem (by decide) fun _ => ⟨('>', ['g', 't']), by decide, rfl⟩
  · exact fun _ hamp => hdata.begins_entity hamp

example : escape "a<b && &lt;" = "a&lt;b &amp;&amp; &amp;lt;" := by decide

/-! ## Scalars -/

theorem not_mem_scalarText (v : Value) : '<' ∉ (scalarText v).toList :=
  (charData_scalarText v).not_mem_bracket

@[simp] theorem scalarText_bool_inj {a b : Bool} : scalarText (.bool a) = scalarText (.bool b) ↔ a = b := by
  cases a <;> cases b <;> decide

@[simp] theorem scalarText_int_inj {m n : Int} : scalarText (.int m) = scalarText (.int n) ↔ m = n :=
  ⟨Text.intText_injective, fun h => by rw [h]⟩

@[simp] theorem scalarText_str_inj {s t : String} : scalarText (.str s) = scalarText (.str t) ↔ s = t :=
  ⟨escape_injective, fun h => by rw [h]⟩

/-! ## Names -/

/-- A name holds only characters that may stand in one. -/
theorem not_mem_of_isName {s : List Char} {c : Char} (h : isName s = true)
    (hc : nameStarts.has c = false ∧ nameMembers.has c = false) : c ∉ s := by
  cases s with
  | nil => exact List.not_mem_nil
  | cons d rest =>
    rw [isName, Bool.and_eq_true, List.all_eq_true] at h
    rintro (_ | ⟨_, hmem⟩)
    · exact Bool.false_ne_true (hc.1.symm.trans h.1)
    · exact Bool.false_ne_true (hc.2.symm.trans (h.2 c hmem))

/-- A name that may stand in a tag and that ends the tag at its bracket. -/
structure Name.IsPlain (n : Name) : Prop where
  isTag : n.IsTag
  uri : ∀ uri, n.uri = some uri → '>' ∉ uri.toList

namespace Name

variable {n : Name}

theorem isPlain_bare {tag : String} (h : isName tag.toList = true) : IsPlain ⟨tag, none⟩ :=
  ⟨⟨h, nofun⟩, nofun⟩

theorem not_mem_of_namespaceOf? {module uri : String} (h : namespaceOf? module = some uri) :
    '>' ∉ uri.toList := not_mem_of_isUriText (isUriText_of_namespaceOf? h) (by decide)

/-- A name in the namespace of a module. -/
theorem isPlain_namespaced {tag : String} (h : isName tag.toList = true) (module : String) :
    IsPlain ⟨tag, namespaceOf? module⟩ :=
  ⟨⟨h, fun _ huri => isAttributeText_of_isUriText (isUriText_of_namespaceOf? huri)⟩,
    fun _ huri => not_mem_of_namespaceOf? huri⟩

theorem isPlain_ofKey {key : String} (h : IsElementKey key.toList) : (ofKey key).IsPlain := by
  refine ⟨isTag_ofKey h, fun uri huri => ?_⟩
  rw [ofKey] at huri
  split at huri
  · cases huri
  · exact not_mem_of_namespaceOf? huri

theorem IsPlain.not_mem_tag (h : n.IsPlain) :
    '<' ∉ n.tag.toList ∧ '>' ∉ n.tag.toList ∧ ' ' ∉ n.tag.toList :=
  ⟨not_mem_of_isName h.isTag.1 (by decide), not_mem_of_isName h.isTag.1 (by decide),
    not_mem_of_isName h.isTag.1 (by decide)⟩

theorem IsPlain.not_mem_opening (h : n.IsPlain) : '<' ∉ n.opening.toList ∧ '>' ∉ n.opening.toList := by
  obtain ⟨hopen, hclose, -⟩ := h.not_mem_tag
  rw [opening]
  cases huri : n.uri with
  | none => exact ⟨hopen, hclose⟩
  | some uri =>
    have hattribute := h.isTag.2 uri huri
    have hopen' : '<' ∉ uri.toList := by
      intro hmem
      rw [isAttributeText, List.all_eq_true] at hattribute
      exact absurd (hattribute _ hmem) (by decide)
    simp [hopen, hclose, hopen', h.uri uri huri]

/-- The name in a tag ends where its attributes begin. -/
theorem IsPlain.takeWhile_opening (h : n.IsPlain) :
    n.opening.toList.takeWhile (· != ' ') = n.tag.toList := by
  obtain ⟨-, -, hblank⟩ := h.not_mem_tag
  rw [opening]
  cases n.uri with
  | none => exact Text.takeWhile_of_not_mem hblank
  | some uri =>
    simp only [String.toList_append, List.append_assoc]
    exact (Text.takeWhile_append_cons hblank _).1

/-- A tag tells the name of its element, with the namespace. -/
theorem IsPlain.opening_injective {m : Name} (hn : n.IsPlain) (hm : m.IsPlain)
    (h : n.opening = m.opening) : n = m := by
  have htag : n.tag = m.tag := by
    rw [← String.toList_inj, ← hn.takeWhile_opening, h, hm.takeWhile_opening]
  obtain ⟨tag, uri⟩ := n
  obtain ⟨tag', uri'⟩ := m
  obtain rfl : tag = tag' := htag
  cases uri <;> cases uri' <;> simp_all [opening, ← String.toList_inj]

end Name

end GateRollout.Markup
