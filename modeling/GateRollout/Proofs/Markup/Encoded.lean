import Mathlib.Data.List.TakeWhile
import GateRollout.Proofs.Markup.Fragment
import GateRollout.Proofs.Text.Determined
import GateRollout.Proofs.Text.Numeral

/-!
# Encoded values are well-formed

Whatever value the encoder is given, as long as its keys name elements, it writes a well-formed fragment.
The character data of the fragment reads as the scalars of the value.
-/

namespace GateRollout.Markup

/-! ## Keys -/

/-- A key that names an element: the name alone, or behind the module that qualifies it. -/
def IsElementKey (key : List Char) : Prop :=
  (':' ∉ key ∧ isName key = true) ∨
    ∃ module tag, key = module ++ ':' :: tag ∧ ':' ∉ module ∧ isName tag = true

theorem splitColon?_of_not_mem {s : List Char} (h : ':' ∉ s) : splitColon? s = none := by
  have hdrop : s.dropWhile (· != ':') = [] := by
    rw [List.dropWhile_eq_nil_iff]
    intro c hc
    simpa using fun hcolon : c = ':' => h (hcolon ▸ hc)
  rw [splitColon?, hdrop]

theorem splitColon?_append {module : List Char} (tag : List Char) (h : ':' ∉ module) :
    splitColon? (module ++ ':' :: tag) = some (module, tag) := by
  rw [splitColon?, (Text.takeWhile_append_cons h tag).1, (Text.takeWhile_append_cons h tag).2]

/-- The characters that stand in a namespace. -/
def isUriChar (c : Char) : Bool := c.isAlphanum || [':', '.', '-'].contains c

/-- Text as the namespaces are. -/
def isUriText (s : List Char) : Bool := s.all isUriChar

theorem not_mem_of_isUriText {s : List Char} {c : Char} (h : isUriText s = true)
    (hc : isUriChar c = false) : c ∉ s :=
  fun hmem => Bool.false_ne_true (hc.symm.trans (List.all_eq_true.1 h c hmem))

theorem isAttributeText_of_isUriText {s : List Char} (h : isUriText s = true) :
    isAttributeText s = true := by
  refine List.all_eq_true.2 fun c hc => ?_
  have hne (d : Char) (hd : isUriChar d = false) : c ≠ d :=
    fun heq => not_mem_of_isUriText h hd (heq ▸ hc)
  simp [hne '<' (by decide), hne '&' (by decide), hne '"' (by decide)]

theorem isUriText_ofList {s : List Char} (h : isUriText s = true) :
    isUriText (String.ofList s).toList = true := by
  rwa [String.toList_ofList]

theorem isUriText_of_namespaceOf? {module uri : String} (h : namespaceOf? module = some uri) :
    isUriText uri.toList = true := by
  have hall : ∀ e ∈ moduleNamespaces, isUriText e.2.toList = true := by
    simp only [moduleNamespaces, List.forall_mem_cons]
    repeat' apply And.intro
    -- taking a literal apart is slow; seen as the list of its characters it is checked at once
    all_goals first | exact isUriText_ofList (by decide) | exact nofun
  obtain ⟨e, he, rfl⟩ := Option.map_eq_some_iff.1 h
  exact hall e (List.mem_of_find?_eq_some he)

theorem isTag_ofKey {key : String} (h : IsElementKey key.toList) : (Name.ofKey key).IsTag := by
  rcases h with ⟨hcolon, hname⟩ | ⟨module, tag, hkey, hcolon, hname⟩
  · rw [Name.ofKey, splitColon?_of_not_mem hcolon]
    exact ⟨hname, nofun⟩
  · rw [Name.ofKey, hkey, splitColon?_append tag hcolon]
    exact ⟨by simpa using hname, fun uri huri =>
      isAttributeText_of_isUriText (isUriText_of_namespaceOf? huri)⟩

/-! ## Scalars -/

/-- The text that a scalar is written for. -/
def dataText : Value → String
  | .bool b => if b then "true" else "false"
  | .int n => Text.intText n
  | .float x => Decimal.positionalText x
  | v => v.text

/-- Text without a character that has an entity. -/
def IsPlain (s : List Char) : Prop := ∀ c ∈ s, ∀ e ∈ entities, e.1 ≠ c

instance : DecidablePred IsPlain := List.decidableBAll fun c => ∀ e ∈ entities, e.1 ≠ c

/-- The characters in the text of a number that are no digits. -/
def numberMarks : List Char := ['-', '.', 'N', 'a', 'I', 'n', 'f', 'i', 't', 'y']

/-- Text of digits and of what else stands in a number. -/
def IsNumberText (s : List Char) : Prop := ∀ c ∈ s, c.isDigit = true ∨ c ∈ numberMarks

instance : DecidablePred IsNumberText :=
  List.decidableBAll fun c : Char => c.isDigit = true ∨ c ∈ numberMarks

namespace IsNumberText

variable {s t : List Char}

theorem append (hs : IsNumberText s) (ht : IsNumberText t) : IsNumberText (s ++ t) :=
  List.forall_mem_append.2 ⟨hs, ht⟩

theorem cons {c : Char} (hc : c ∈ numberMarks) (hs : IsNumberText s) : IsNumberText (c :: s) :=
  List.forall_mem_cons.2 ⟨.inr hc, hs⟩

theorem replicate (n : Nat) : IsNumberText (List.replicate n '0') := by
  intro c hc
  rw [List.eq_of_mem_replicate hc]
  decide

theorem natDigits (n : Nat) : IsNumberText (Text.natDigits n) :=
  fun _ hc => .inl (Nat.isDigit_of_mem_toDigits (by decide) (by decide) hc)

theorem intText (n : Int) : IsNumberText (Text.intText n).toList := by
  rw [Text.intText, String.toList_ofList]
  cases n with
  | ofNat n => exact natDigits n
  | negSucc n => exact (natDigits (n + 1)).cons (by decide)

theorem positional {ds : List Char} (h : IsNumberText ds) (point : Int) :
    IsNumberText (Decimal.positional ds point) := by
  rw [Decimal.positional]
  split
  · exact append (by decide : IsNumberText ['0']) (((replicate _).append h).cons (by decide))
  · dsimp only
    split
    · exact h.append (replicate _)
    · refine append ?_ (cons (by decide) ?_)
      · exact fun c hc => h c (List.mem_of_mem_take hc)
      · exact fun c hc => h c (List.mem_of_mem_drop hc)

theorem signed (negative : Bool) (h : IsNumberText s) : IsNumberText (Decimal.signed negative s) := by
  rw [Decimal.signed]
  split
  · exact h.cons (by decide)
  · exact h

theorem positionalText (x : Float) : IsNumberText (Decimal.positionalText x).toList := by
  rw [Decimal.positionalText]
  split
  · decide
  · rw [String.toList_ofList]
    exact signed _ (by decide)
  · split
    · exact intText _
    · rw [String.toList_ofList]
      exact signed _ (positional (natDigits _) _)

theorem not_mem {c : Char} (h : IsNumberText s) (hdigit : c.isDigit = false) (hc : c ∉ numberMarks) :
    c ∉ s :=
  fun hmem => (h c hmem).elim (fun hd => Bool.false_ne_true (hdigit.symm.trans hd)) hc

theorem isPlain (h : IsNumberText s) : IsPlain s := by
  have hall : ∀ e ∈ entities, e.1.isDigit = false ∧ e.1 ∉ numberMarks := by decide
  rintro _ hc e he rfl
  exact h.not_mem (hall e he).1 (hall e he).2 hc

end IsNumberText

/-- The text of a scalar reads as what it was written for. -/
theorem charData_scalarText (v : Value) : CharData (dataText v).toList (scalarText v).toList := by
  cases v with
  | bool b =>
    have hplain : IsPlain (dataText (.bool b)).toList := by cases b <;> decide
    exact .self hplain
  | int n => exact .self (IsNumberText.intText n).isPlain
  | float x => exact .self (IsNumberText.positionalText x).isPlain
  | _ => exact charData_escape _

/-! ## Values -/

/-- Data of a value: a scalar within it, or the name of an operation without its module. -/
def IsDataOf (v : Value) (data : List Char) : Prop :=
  ∃ u : Value, u.Within v ∧ ((isScalar u = true ∧ data = (dataText u).toList) ∨
    ∃ s, u = .str s ∧ data = (withoutModule s).toList)

/-- What has no text of its own is marked. -/
theorem isMark_bodyOf {v : Value} (hscalar : isScalar v = false)
    (hobject : ∀ className, v = .object className → isAttributeText className.toList = true) :
    (bodyOf v).IsMark := by
  cases v with
  | null => trivial
  | object className => exact hobject className rfl
  | bool _ | int _ | float _ | str _ => cases hscalar
  | _ =>
    change isAttributeText (Value.typeName _).toList = true
    rw [Value.typeName]
    decide

/-- What a value has to be so that it can be written, apart from what is within it: the keys of a map
name elements, and the name of a class can stand in quotes. -/
def IsWritable : Value → Prop
  | .map entries => ∀ e ∈ entries, ∃ key, e.1 = .str key ∧ IsElementKey key.toList
  | .object className => isAttributeText className.toList = true
  | _ => True

/-- A fault of writing a value: an integer within it has too many digits. -/
def IsUnwritten (v : Value) (e : Fault) : Prop :=
  e = .unwritten ∧ ∃ n, (Value.int n).Within v ∧ Text.isWritten n = false

/-- A value that can be written gives names, bodies and marks that have a place in a fragment, and the
character data among them reads as data of the value that it stands within. -/
theorem allows_of_isWritable {u v : Value} (hu : u.Within v) (h : IsWritable u) :
    Allows (IsUnwritten v) Name.IsTag
      (Body.IsContent fun data => isBlankText data = true ∨ IsDataOf v data) Body.IsMark u := by
  have hmark : isScalar u = false → (bodyOf u).IsMark := by
    intro hscalar
    refine isMark_bodyOf hscalar ?_
    rintro className rfl
    exact h
  refine ⟨?_, ?_, ?_, hmark, ?_⟩
  · rintro entries rfl e he
    obtain ⟨key, hkey, helement⟩ := h e he
    rw [hkey]
    exact isTag_ofKey helement
  · intro hscalar htext
    cases u with
    | int n => exact ⟨rfl, n, hu, htext⟩
    | bool _ | float _ | str _ => cases htext
    | _ => cases hscalar
  · cases hscalar : isScalar u with
    | false => exact .inl (hmark hscalar)
    | true =>
      exact .inr ⟨_, _, bodyOf_scalar hscalar, .inr ⟨u, hu, .inl ⟨hscalar, rfl⟩⟩, charData_scalarText u⟩
  · rintro s rfl
    refine .inr ⟨_, _, rfl, .inr ⟨_, hu, .inr ⟨s, rfl, rfl⟩⟩, ?_⟩
    exact charData_escape _

theorem isTag_own : ∀ tag ∈ ownTags, Name.IsTag ⟨tag, none⟩ := by
  have hall : ∀ tag ∈ ownTags, isName tag.toList = true := by decide
  exact fun tag htag => ⟨hall tag htag, nofun⟩

/-- Every value whose keys name elements is encoded, and what is written is a well-formed fragment whose
character data is blank or reads as data of the value, unless an integer within the value has too many
digits and this is the failure. -/
theorem encode_wellFormed {v : Value} (h : v.Everywhere IsWritable) (indent : Int) :
    (∃ text, encode v indent = .ok text ∧
      Fragment (fun data => isBlankText data = true ∨ IsDataOf v data) text.toList) ∨
    ∃ n, (Value.int n).Within v ∧ Text.maxNumeralDigits < Text.numeralLength n ∧
      encode v indent = .error .unwritten := by
  have hgives := gives_everywhere isTag_own (fun u hu => allows_of_isWritable hu (h u hu)) .alone trivial
  change Gives _ _ _ _ (nodes v) at hgives
  rw [encode]
  cases hns : nodes v with
  | ok ns =>
    rw [hns] at hgives
    exact .inl ⟨render indent ns, rfl, fragment_render (fun _ hblank => .inl hblank) hgives indent⟩
  | error e =>
    rw [hns] at hgives
    obtain ⟨rfl, n, hn, hwritten⟩ := hgives
    exact .inr ⟨n, hn, by simpa [Text.isWritten] using hwritten, rfl⟩

theorem encode_long_int {n : Int} (h : Text.isWritten n = false) (indent : Int) :
    encode (.int n) indent = .error .unwritten := by
  have hwritten : writtenScalar (.int n) = .error .unwritten := by
    rw [writtenScalar, Value.hasText, h]
    rfl
  have hnodes : nodes (.int n) = .error .unwritten := by
    simp [nodes, isScalar, hwritten, bind, Except.bind]
  rw [encode, hnodes]
  rfl

/-- An integer of too many digits is not encoded. -/
theorem long_integer_is_not_encoded : ¬∀ (v : Value) (indent : Int), v.Everywhere IsWritable →
    ∃ text, encode v indent = .ok text ∧
      Fragment (fun data => isBlankText data = true ∨ IsDataOf v data) text.toList := by
  intro h
  obtain ⟨text, htext, -⟩ := h (.int Text.leastUnwritten) 0 (Value.everywhere_of_parts trivial nofun)
  rw [encode_long_int Text.isWritten_leastUnwritten] at htext
  cases htext

/-- A list within a list, and an entry of a gate control list with a key of its own, under a key that is
qualified by a module. -/
def nestedValue : Value :=
  .map [(.str "ietf-interfaces:interfaces", .list [.list [.str "a<b", .null],
    .map [(.str "gate-control-entry", .tuple [.map [(.str "vendor:note", .object "Widget"),
      (.str "operation-name", .str "sched:set-gate-states")]])]])]

theorem encode_wellFormed_nested :
    nestedValue.Everywhere IsWritable ∧ ((∃ text, encode nestedValue 0 = .ok text ∧
      Fragment (fun data => isBlankText data = true ∨ IsDataOf nestedValue data) text.toList) ∨
    ∃ n, (Value.int n).Within nestedValue ∧ Text.maxNumeralDigits < Text.numeralLength n ∧
      encode nestedValue 0 = .error .unwritten) := by
  have hplain : ∀ key ∈ ["gate-control-entry", "operation-name"], IsElementKey key.toList :=
    fun key hkey => .inl ((by decide : ∀ key ∈ ["gate-control-entry", "operation-name"],
      ':' ∉ key.toList ∧ isName key.toList = true) key hkey)
  have hinterfaces : IsElementKey "ietf-interfaces:interfaces".toList :=
    .inr ⟨"ietf-interfaces".toList, "interfaces".toList, by decide, by decide, by decide⟩
  have hnote : IsElementKey "vendor:note".toList :=
    .inr ⟨"vendor".toList, "note".toList, by decide, by decide, by decide⟩
  have hentry : (Value.map [(.str "vendor:note", .object "Widget"),
      (.str "operation-name", .str "sched:set-gate-states")]).Everywhere IsWritable := by
    refine Value.everywhere_of_parts ?_ ?_
    · rintro e (_ | ⟨_, _ | ⟨_, ⟨⟩⟩⟩)
      · exact ⟨_, rfl, hnote⟩
      · exact ⟨_, rfl, hplain _ (by decide)⟩
    · rintro w (_ | ⟨_, _ | ⟨_, ⟨⟩⟩⟩)
      · exact Value.everywhere_of_parts (by decide : isAttributeText "Widget".toList = true) nofun
      · exact Value.everywhere_of_parts trivial nofun
  have h : nestedValue.Everywhere IsWritable := by
    refine Value.everywhere_of_parts ?_ (List.forall_mem_singleton.2 ?_)
    · exact List.forall_mem_singleton.2 ⟨_, rfl, hinterfaces⟩
    refine Value.everywhere_of_parts trivial ?_
    rintro w (_ | ⟨_, _ | ⟨_, ⟨⟩⟩⟩)
    · refine Value.everywhere_of_parts trivial ?_
      rintro w (_ | ⟨_, _ | ⟨_, ⟨⟩⟩⟩) <;> exact Value.everywhere_of_parts trivial nofun
    · refine Value.everywhere_of_parts ?_ (List.forall_mem_singleton.2 ?_)
      · exact List.forall_mem_singleton.2 ⟨_, rfl, hplain _ (by decide)⟩
      · exact Value.everywhere_of_parts trivial (List.forall_mem_singleton.2 hentry)
  exact ⟨h, encode_wellFormed h 0⟩

end GateRollout.Markup
