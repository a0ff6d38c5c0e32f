import GateRollout.Proofs.Json.Data
import GateRollout.Proofs.Json.Sorting
import GateRollout.Proofs.Json.Tokens
import Mathlib.Data.List.Forall2

/-!
# Printed values are read back

What is printed of data that JSON can hold is read back as that data, in every layout whose marks are those
of JSON with blanks behind them.  The text is read wherever it stands, so that the items of a list and the
members of an object are read one after the other.
-/

namespace GateRollout

namespace Json

/-! ## Values -/

/-- A text is read as a value, and a rest is left behind it. -/
def Reads (s : List Char) (v : Value) (rest : List Char) : Prop := ∃ h, value s = .ok (v, ⟨rest, h⟩)

/-- A text is read as the items of a list up to its end, and a rest is left behind it. -/
def ReadsItems (s : List Char) (vs : List Value) (rest : List Char) : Prop :=
  ∃ h, items s = .ok (vs, ⟨rest, h⟩)

/-- A text is read as the members of an object up to its end, which are put to those that are known, and a
rest is left behind it. -/
def ReadsMembers (known : Entries) (s : List Char) (es : Entries) (rest : List Char) : Prop :=
  ∃ h, members known s = .ok (es, ⟨rest, h⟩)

theorem reads_str (cs rest : List Char) :
    Reads ('"' :: (cs.flatMap escapeChar ++ '"' :: rest)) (.str (String.ofList cs)) rest := by
  obtain ⟨hlt, h⟩ := readsBody_escaped cs rest
  refine ⟨Nat.lt_succ_of_lt hlt, ?_⟩
  rw [value, h]
  rfl

theorem reads_atom {s rest : List Char} {v : Value} (h : atom s = .ok (v, rest))
    (hlt : rest.length < s.length) (hs : ∀ c ∈ s.head?, c ≠ '"' ∧ c ≠ '[' ∧ c ≠ '\x7b') : Reads s v rest := by
  have hshorter : shorter s rest = .ok ⟨rest, hlt⟩ := dif_pos hlt
  refine ⟨hlt, ?_⟩
  rw [value]
  · rw [h]
    change (do return (v, ← shorter s rest)) = _
    rw [hshorter]
    rfl
  · rintro t rfl
    exact (hs _ rfl).1 rfl
  · rintro t rfl
    exact (hs _ rfl).2.1 rfl
  · rintro t rfl
    exact (hs _ rfl).2.2 rfl

theorem skip_cons {c : Char} (hc : isSpace c = false) (s : List Char) : (skip (c :: s)).1 = c :: s := by
  rw [skip]
  exact List.dropWhile_cons_of_neg (by simp [hc])

/-- Blanks are skipped. -/
theorem skip_blanks {blanks : List Char} (h : ∀ c ∈ blanks, isSpace c = true) (s : List Char) :
    (skip (blanks ++ s)).1 = (skip s).1 := by
  rw [skip, skip]
  exact List.dropWhile_append_of_pos h

theorem reads_list_nil (rest : List Char) : Reads ('[' :: ']' :: rest) (.list []) rest := by
  have hskip : (skip (']' :: rest)).1 = ']' :: rest := skip_cons rfl rest
  refine ⟨by simp only [List.length_cons]; omega, ?_⟩
  rw [value]
  split
  case h_1 r hr =>
    obtain rfl : rest = r := by simpa [hskip] using hr
    rfl
  case h_2 hr => exact absurd hskip (hr rest)

theorem reads_list {s : List Char} {vs : List Value} {rest : List Char} (h : ReadsItems (skip s).1 vs rest)
    (hs : (skip s).1.head? ≠ some ']') : Reads ('[' :: s) (.list vs) rest := by
  obtain ⟨hlt, h⟩ := h
  have hle := (skip s).2
  refine ⟨by simp only [List.length_cons]; omega, ?_⟩
  rw [value]
  split
  case h_1 r hr => exact absurd (congrArg List.head? hr) hs
  case h_2 =>
    rw [h]
    rfl

theorem readsItems_last {s u : List Char} {v : Value} (h : Reads s v (']' :: u)) : ReadsItems s [v] u := by
  obtain ⟨hlt, h⟩ := h
  have hskip : (skip (']' :: u)).1 = ']' :: u := skip_cons rfl u
  refine ⟨Nat.lt_of_succ_lt hlt, ?_⟩
  rw [items, h]
  dsimp only [bind, Except.bind]
  split
  case h_1 t ht =>
    obtain rfl : u = t := by simpa [hskip] using ht
    rfl
  case h_2 t ht => simp [hskip] at ht
  case h_3 hr _ => exact absurd hskip (hr u)

theorem readsItems_cons {s u rest : List Char} {v : Value} {vs : List Value} (h : Reads s v (',' :: u))
    (hs : ReadsItems (skip u).1 vs rest) : ReadsItems s (v :: vs) rest := by
  obtain ⟨hlt, h⟩ := h
  obtain ⟨hlt', hs⟩ := hs
  have hskip : (skip (',' :: u)).1 = ',' :: u := skip_cons rfl u
  have hle := (skip u).2
  rw [List.length_cons] at hlt
  refine ⟨by omega, ?_⟩
  rw [items, h]
  dsimp only [bind, Except.bind]
  split
  case h_1 t ht => simp [hskip] at ht
  case h_2 t ht =>
    obtain rfl : u = t := by simpa [hskip] using ht
    rw [hs]
    rfl
  case h_3 _ hr => exact absurd hskip (hr u)

theorem reads_map_nil (rest : List Char) : Reads ('\x7b' :: '\x7d' :: rest) (.map []) rest := by
  have hskip : (skip ('\x7d' :: rest)).1 = '\x7d' :: rest := skip_cons rfl rest
  refine ⟨by simp only [List.length_cons]; omega, ?_⟩
  rw [value]
  split
  case h_1 r hr =>
    obtain rfl : rest = r := by simpa [hskip] using hr
    rfl
  case h_2 hr => exact absurd hskip (hr rest)

theorem reads_map {s : List Char} {es : Entries} {rest : List Char}
    (h : ReadsMembers [] (skip s).1 es rest) (hs : (skip s).1.head? ≠ some '\x7d') :
    Reads ('\x7b' :: s) (.map es) rest := by
  obtain ⟨hlt, h⟩ := h
  have hle := (skip s).2
  refine ⟨by simp only [List.length_cons]; omega, ?_⟩
  rw [value]
  split
  case h_1 r hr => exact absurd (congrArg List.head? hr) hs
  case h_2 =>
    rw [h]
    rfl

theorem readsMembers_last {known : Entries} {s t u key : List Char} {v : Value}
    (hkey : ReadsBody s key (':' :: t)) (h : Reads (skip t).1 v ('\x7d' :: u)) :
    ReadsMembers known ('"' :: s) (known.put (String.ofList key) v) u := by
  obtain ⟨hlt, hkey⟩ := hkey
  obtain ⟨hlt', h⟩ := h
  have hskip : (skip (':' :: t)).1 = ':' :: t := skip_cons rfl t
  have hskip' : (skip ('\x7d' :: u)).1 = '\x7d' :: u := skip_cons rfl u
  have hle := (skip t).2
  rw [List.length_cons] at hlt hlt'
  refine ⟨by simp only [List.length_cons]; omega, ?_⟩
  rw [members, hkey]
  dsimp only [bind, Except.bind]
  split
  case h_1 t' ht =>
    obtain rfl : t = t' := by simpa [hskip] using ht
    rw [h]
    dsimp only
    split
    case h_1 u' hu =>
      obtain rfl : u = u' := by simpa [hskip'] using hu
      rfl
    case h_2 u' hu => simp [hskip'] at hu
    case h_3 hr _ => exact absurd hskip' (hr u)
  case h_2 hr => exact absurd hskip (hr t)

theorem readsMembers_cons {known es : Entries} {s t u key rest : List Char} {v : Value}
    (hkey : ReadsBody s key (':' :: t)) (h : Reads (skip t).1 v (',' :: u))
    (hs : ReadsMembers (known.put (String.ofList key) v) (skip u).1 es rest) :
    ReadsMembers known ('"' :: s) es rest := by
  obtain ⟨hlt, hkey⟩ := hkey
  obtain ⟨hlt', h⟩ := h
  obtain ⟨hlt'', hs⟩ := hs
  have hskip : (skip (':' :: t)).1 = ':' :: t := skip_cons rfl t
  have hskip' : (skip (',' :: u)).1 = ',' :: u := skip_cons rfl u
  have hle := (skip t).2
  have hle' := (skip u).2
  rw [List.length_cons] at hlt hlt'
  refine ⟨by simp only [List.length_cons]; omega, ?_⟩
  rw [members, hkey]
  dsimp only [bind, Except.bind]
  split
  case h_1 t' ht =>
    obtain rfl : t = t' := by simpa [hskip] using ht
    rw [h]
    dsimp only
    split
    case h_1 u' hu => simp [hskip'] at hu
    case h_2 u' hu =>
      obtain rfl : u = u' := by simpa [hskip'] using hu
      rw [hs]
      rfl
    case h_3 _ hr => exact absurd hskip' (hr u)
  case h_2 hr => exact absurd hskip (hr t)

/-! ## Printed values -/

/-- The marks of a layout are those of JSON with blanks behind them. -/
structure Layout.IsReadable (l : Layout) : Prop where
  item : ∃ blanks, l.itemMark.toList = ',' :: blanks ∧ ∀ c ∈ blanks, isSpace c = true
  key : ∃ blanks, l.keyMark.toList = ':' :: blanks ∧ ∀ c ∈ blanks, isSpace c = true

theorem Layout.isReadable_spaced : Layout.spaced.IsReadable :=
  ⟨⟨[' '], rfl, List.forall_mem_singleton.2 rfl⟩, ⟨[' '], rfl, List.forall_mem_singleton.2 rfl⟩⟩

theorem Layout.isReadable_canonical : Layout.canonical.IsReadable :=
  ⟨⟨[], rfl, nofun⟩, ⟨[], rfl, nofun⟩⟩

/-- A text is read back as a value wherever it stands. -/
structure ReadsBack (text : String) (v : Value) : Prop where
  head : ∃ c t, text.toList = c :: t ∧ isSpace c = false ∧ c ≠ ']'
  reads : ∀ rest, EndsNumber rest → Reads (text.toList ++ rest) v rest

theorem endsNumber_cons {c : Char} (h : c.isDigit = false ∧ c ≠ '.' ∧ c ≠ 'e' ∧ c ≠ 'E') (s : List Char) :
    EndsNumber (c :: s) := by
  rintro _ ⟨⟩
  exact h

theorem ReadsBack.word {text : String} {v : Value} {c : Char} {t : List Char} (hword : text.toList = c :: t)
    (hc : isSpace c = false ∧ c ≠ '"' ∧ c ≠ '[' ∧ c ≠ ']' ∧ c ≠ '\x7b')
    (h : ∀ rest, EndsNumber rest → atom (text.toList ++ rest) = .ok (v, rest)) : ReadsBack text v where
  head := ⟨c, t, hword, hc.1, hc.2.2.2.1⟩
  reads rest hrest := by
    refine reads_atom (h rest hrest) (by rw [hword, List.length_append, List.length_cons]; omega) ?_
    rw [hword]
    rintro _ ⟨⟩
    exact ⟨hc.2.1, hc.2.2.1, hc.2.2.2.2⟩

theorem readsBack_null : ReadsBack "null" .null :=
  .word rfl (by decide) fun rest _ => rfl

theorem readsBack_bool (b : Bool) : ReadsBack (if b then "true" else "false") (.bool b) := by
  cases b
  · exact .word rfl (by decide) fun rest _ => rfl
  · exact .word rfl (by decide) fun rest _ => rfl

theorem readsBack_int {n : Int} (hn : Text.numeralLength n ≤ Text.maxNumeralDigits) :
    ReadsBack (Text.intText n) (.int n) := by
  have htext : (Text.intText n).toList = Text.intDigits n := String.toList_ofList
  have hdigit : ∀ c, Char.isDigit c = true →
      isSpace c = false ∧ c ≠ '"' ∧ c ≠ '[' ∧ c ≠ ']' ∧ c ≠ '\x7b' := by
    intro c hc
    have hne : ∀ d : Char, d.isDigit = false → c ≠ d := fun d hd => (ne_of_isDigit hc hd).symm
    refine ⟨?_, hne _ (by decide), hne _ (by decide), hne _ (by decide), hne _ (by decide)⟩
    simp [isSpace, hne ' ' (by decide), hne '\t' (by decide), hne '\n' (by decide), hne '\r' (by decide)]
  obtain ⟨c, t, ht, hc⟩ := intDigits_eq_cons n
  refine .word (htext.trans ht) ?_ fun rest hrest => ?_
  · obtain hc | rfl := hc
    · exact hdigit c hc
    · decide
  · rw [htext]
    exact atom_intDigits hn hrest

theorem readsBack_stringText (s : String) : ReadsBack (stringText s) (.str s) where
  head := ⟨'"', _, String.toList_ofList, rfl, by decide⟩
  reads rest _ := by
    have h := reads_str s.toList rest
    rw [String.ofList_toList] at h
    simpa [stringText] using h

/-- Of a text that does not begin with a blank, nothing is skipped. -/
theorem skip_text {text : String} {c : Char} {t : List Char} (htext : text.toList = c :: t)
    (hc : isSpace c = false) (rest : List Char) : (skip (text.toList ++ rest)).1 = text.toList ++ rest := by
  rw [htext, List.cons_append, skip_cons hc]

theorem ReadsBack.skip {text : String} {v : Value} (h : ReadsBack text v) {blanks : List Char}
    (hblanks : ∀ c ∈ blanks, isSpace c = true) (rest : List Char) :
    (skip (blanks ++ (text.toList ++ rest))).1 = text.toList ++ rest := by
  obtain ⟨c, t, htext, hc, -⟩ := h.head
  rw [skip_blanks hblanks, skip_text htext hc]

theorem toList_intercalate_cons (mark text : String) (texts : List String) :
    (mark.intercalate (text :: texts)).toList =
      text.toList ++ texts.flatMap fun t => mark.toList ++ t.toList := by
  induction texts generalizing text with
  | nil => rw [String.intercalate_singleton, List.flatMap_nil, List.append_nil]
  | cons t texts ih =>
    rw [String.intercalate_cons_cons, String.toList_append, String.toList_append, ih, List.flatMap_cons,
      List.append_assoc, List.append_assoc]

variable {layout : Layout}

theorem readsItems_texts (hl : layout.IsReadable) {text : String} {v : Value} {texts : List String}
    {vs : List Value} (h : ReadsBack text v) (hs : List.Forall₂ ReadsBack texts vs) (rest : List Char) :
    ReadsItems
      (text.toList ++ (texts.flatMap (fun t => layout.itemMark.toList ++ t.toList) ++ ']' :: rest))
      (v :: vs) rest := by
  obtain ⟨blanks, hmark, hblanks⟩ := hl.item
  simp only [hmark]
  induction hs generalizing text v with
  | nil => exact readsItems_last (h.reads _ (endsNumber_cons (by decide) rest))
  | @cons text' v' texts vs h' _ ih =>
    simp only [List.flatMap_cons, List.cons_append, List.append_assoc]
    refine readsItems_cons (h.reads _ (endsNumber_cons (by decide) _)) ?_
    rw [h'.skip hblanks]
    exact ih h'

/-- A text is that of a member: the name between quotes, the mark, and a text of the value. -/
def IsMember (layout : Layout) (text : String) (f : String × Value) : Prop :=
  ∃ value, text = stringText f.1 ++ layout.keyMark ++ value ∧ ReadsBack value f.2

theorem IsMember.head {text : String} {f : String × Value} (h : IsMember layout text f) :
    ∃ t, text.toList = '"' :: t := by
  obtain ⟨value, rfl, -⟩ := h
  exact ⟨_, by rw [stringText, String.toList_append, String.toList_append, String.toList_ofList]; rfl⟩

theorem IsMember.skip {text : String} {f : String × Value} (h : IsMember layout text f) {blanks : List Char}
    (hblanks : ∀ c ∈ blanks, isSpace c = true) (rest : List Char) :
    (skip (blanks ++ (text.toList ++ rest))).1 = text.toList ++ rest := by
  obtain ⟨t, htext⟩ := h.head
  rw [skip_blanks hblanks, skip_text htext rfl]

/-- The first member of a text is read up to what stands behind its value. -/
theorem IsMember.reads (hl : layout.IsReadable) {text : String} {f : String × Value}
    (h : IsMember layout text f) {rest : List Char} (hrest : EndsNumber rest) :
    ∃ body t, text.toList ++ rest = '"' :: body ∧ ReadsBody body f.1.toList (':' :: t) ∧
      Reads (Json.skip t).1 f.2 rest := by
  obtain ⟨value, rfl, hvalue⟩ := h
  obtain ⟨blanks, hmark, hblanks⟩ := hl.key
  refine ⟨_, _, ?_, readsBody_escaped f.1.toList (':' :: (blanks ++ (value.toList ++ rest))), ?_⟩
  · simp [stringText, hmark]
  · rw [hvalue.skip hblanks]
    exact hvalue.reads rest hrest

theorem not_mem_known {f : String × Value} {known fields : List (String × Value)}
    (h : ((known ++ f :: fields).map Prod.fst).Nodup) : f.1 ∉ known.map Prod.fst := by
  rw [List.map_append, List.map_cons] at h
  exact fun hf => (List.nodup_append.1 h).2.2 _ hf _ List.mem_cons_self rfl

theorem readsMembers_texts (hl : layout.IsReadable) {text : String} {f : String × Value}
    {texts : List String} {known fields : List (String × Value)}
    (hdistinct : ((known ++ f :: fields).map Prod.fst).Nodup) (h : IsMember layout text f)
    (hs : List.Forall₂ (IsMember layout) texts fields) (rest : List Char) :
    ReadsMembers (Entries.named known)
      (text.toList ++ (texts.flatMap (fun t => layout.itemMark.toList ++ t.toList) ++ '\x7d' :: rest))
      (Entries.named (known ++ f :: fields)) rest := by
  obtain ⟨blanks, hmark, hblanks⟩ := hl.item
  simp only [hmark]
  induction hs generalizing text f known with
  | nil =>
    obtain ⟨body, t, htext, hkey, hvalue⟩ := h.reads hl (endsNumber_cons (c := '\x7d') (by decide) rest)
    have hlast : ReadsMembers (Entries.named known) _ _ rest := readsMembers_last hkey hvalue
    rw [String.ofList_toList, Entries.put_named (not_mem_known hdistinct), ← htext] at hlast
    exact hlast
  | @cons text' f' texts fields h' _ ih =>
    simp only [List.flatMap_cons, List.cons_append, List.append_assoc]
    obtain ⟨body, t, htext, hkey, hvalue⟩ := h.reads hl (endsNumber_cons (c := ',') (by decide) _)
    rw [htext]
    refine readsMembers_cons hkey hvalue ?_
    have hassoc : known ++ f :: f' :: fields = known ++ [f] ++ f' :: fields := List.append_cons ..
    rw [String.ofList_toList, Entries.put_named (not_mem_known hdistinct), h'.skip hblanks, hassoc]
    exact ih (hassoc ▸ hdistinct) h'

/-! ## Lists and objects -/

theorem readsBack_list (hl : layout.IsReadable) {texts : List String} {vs : List Value}
    (hs : List.Forall₂ ReadsBack texts vs) :
    ReadsBack ("[" ++ layout.itemMark.intercalate texts ++ "]") (.list vs) where
  head := ⟨'[', _, by rw [String.toList_append, String.toList_append]; rfl, rfl, by decide⟩
  reads rest _ := by
    cases hs with
    | nil =>
      rw [String.intercalate_nil]
      exact reads_list_nil rest
    | @cons text v texts vs h hs =>
      have hitems := readsItems_texts hl h hs rest
      obtain ⟨c, t, htext, hspace, hc⟩ := h.head
      rw [String.toList_append, String.toList_append, toList_intercalate_cons]
      simp only [List.append_assoc, String.reduceToList, List.cons_append, List.nil_append]
      refine reads_list ?_ ?_
      · rwa [skip_text htext hspace]
      · rw [skip_text htext hspace, htext]
        simpa using hc

theorem readsBack_map (hl : layout.IsReadable) {texts : List String} {fields : List (String × Value)}
    (hdistinct : (fields.map Prod.fst).Nodup) (hs : List.Forall₂ (IsMember layout) texts fields) :
    ReadsBack ("\x7b" ++ layout.itemMark.intercalate texts ++ "\x7d") (.map (Entries.named fields)) where
  head := ⟨'\x7b', _, by rw [String.toList_append, String.toList_append]; rfl, rfl, by decide⟩
  reads rest _ := by
    cases hs with
    | nil =>
      rw [String.intercalate_nil]
      exact reads_map_nil rest
    | @cons text f texts fields h hs =>
      have hmembers : ReadsMembers (Entries.named []) _ (Entries.named ([] ++ f :: fields)) rest :=
        readsMembers_texts hl hdistinct h hs rest
      obtain ⟨t, htext⟩ := h.head
      rw [String.toList_append, String.toList_append, toList_intercalate_cons]
      simp only [List.append_assoc, String.reduceToList, List.cons_append, List.nil_append]
      refine reads_map ?_ ?_
      · rwa [skip_text htext rfl]
      · rw [skip_text htext rfl, htext]
        simp

/-! ## What is printed -/

theorem printMembers_ok {xs : List Value}
    (h : ∀ x ∈ xs, ∃ text, print layout x = .ok text ∧ ReadsBack text x) :
    ∃ texts, printMembers layout xs = .ok texts ∧ List.Forall₂ ReadsBack texts xs := by
  induction xs with
  | nil => exact ⟨[], by rw [printMembers], .nil⟩
  | cons x xs ih =>
    rw [List.forall_mem_cons] at h
    obtain ⟨⟨text, htext, hback⟩, hxs⟩ := h
    obtain ⟨texts, htexts, hbacks⟩ := ih hxs
    exact ⟨text :: texts, by rw [printMembers, htext, htexts]; rfl, .cons hback hbacks⟩

theorem printEntries_named_ok {fields : List (String × Value)}
    (h : ∀ f ∈ fields, ∃ text, print layout f.2 = .ok text ∧ ReadsBack text f.2) :
    ∃ texts, printEntries layout (Entries.named fields) = .ok texts ∧
      List.Forall₂ (IsMember layout) texts fields := by
  induction fields with
  | nil => exact ⟨[], printEntries.eq_1 layout, .nil⟩
  | cons f fields ih =>
    rw [List.forall_mem_cons] at h
    obtain ⟨⟨text, htext, hback⟩, hfields⟩ := h
    obtain ⟨texts, htexts, hmembers⟩ := ih hfields
    refine ⟨_, ?_, .cons ⟨text, rfl, hback⟩ hmembers⟩
    change printEntries layout ((.str f.1, f.2) :: Entries.named fields) = _
    rw [printEntries, keyText, htext, htexts]
    rfl

/-- Data that JSON holds has a text in every layout, which is read back as this data. -/
theorem print_readsBack (hl : layout.IsReadable) {v : Value} (h : v.IsJson) :
    ∃ text, print layout v = .ok text ∧ ReadsBack text v := by
  induction h with
  | null => exact ⟨_, by rw [print], readsBack_null⟩
  | bool b => exact ⟨_, by rw [print], readsBack_bool b⟩
  | int digits =>
    exact ⟨_, by rw [print, integerText_eq_ok.2 ⟨decide_eq_true digits, rfl⟩], readsBack_int digits⟩
  | str s => exact ⟨_, by rw [print], readsBack_stringText s⟩
  | list items ih =>
    obtain ⟨texts, htexts, hbacks⟩ := printMembers_ok ih
    exact ⟨_, by rw [print, htexts]; rfl, readsBack_list hl hbacks⟩
  | map distinct values ih =>
    obtain ⟨texts, htexts, hmembers⟩ := printEntries_named_ok ih
    have hkeys : ∀ {fields : List (String × Value)}, ∀ e ∈ Entries.named fields, e.1.asText?.isSome = true :=
      List.forall_mem_map.2 fun _ _ => rfl
    obtain ⟨es, hes, -⟩ := sortByKey_ok hkeys
    exact ⟨_, print_map_eq_ok.2 ⟨fun _ => ⟨es, hes⟩, texts, htexts, rfl⟩, readsBack_map hl distinct hmembers⟩

/-- A text that is read back as a value is the whole text of it. -/
theorem parse_of_readsBack {text : String} {v : Value} (h : ReadsBack text v) : parse text = .ok v := by
  obtain ⟨c, t, htext, hc, -⟩ := h.head
  have hread : Reads (skip text.toList).1 v [] := by
    have hskip := skip_text htext hc []
    rw [List.append_nil] at hskip
    rw [hskip, ← List.append_nil text.toList]
    exact h.reads [] nofun
  obtain ⟨hlt, hread⟩ := hread
  rw [parse, hread]
  rfl

end Json

end GateRollout
