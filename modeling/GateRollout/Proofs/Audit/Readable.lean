import GateRollout.Proofs.Audit.Lines
import GateRollout.Proofs.Audit.Record

/-!
# Records that are read can be written

JSON has a text for whatever is read from JSON: nothing, truth values, numbers, texts, lists, and maps under
texts.  So a record that was read from a line of the audit log has a line again.
-/

namespace GateRollout

/-- Values under texts that have a JSON text. -/
def Entries.AreWritable (entries : Entries) : Prop :=
  ∀ e ∈ entries, (∃ key, e.1 = .str key) ∧ e.2.IsWritable

theorem Entries.AreWritable.put {entries : Entries} (h : entries.AreWritable) (key : String) {v : Value}
    (hv : v.IsWritable) : (entries.put key v).AreWritable := by
  rw [Entries.put]
  split
  · intro e he
    obtain ⟨e', he', rfl⟩ := List.mem_map.1 he
    split
    · exact ⟨(h e' he').1, hv⟩
    · exact h e' he'
  · exact List.forall_mem_append.2 ⟨h, List.forall_mem_singleton.2 ⟨⟨key, rfl⟩, hv⟩⟩

/-! ## What JSON reads -/

namespace Json

theorem isWritable_list {xs : List Value} (h : ∀ x ∈ xs, x.IsWritable) : (Value.list xs).IsWritable := by
  obtain ⟨texts, htexts⟩ : ∃ texts, printMembers .spaced xs = .ok texts := by
    induction xs with
    | nil => exact ⟨[], by rw [printMembers]⟩
    | cons x xs ih =>
      obtain ⟨⟨text, htext⟩, hxs⟩ := List.forall_mem_cons.1 h
      obtain ⟨texts, htexts⟩ := ih hxs
      exact ⟨text :: texts, by rw [printMembers, htext, htexts]; rfl⟩
  exact ⟨_, by rw [print, htexts]; rfl⟩

theorem isWritable_map {entries : Entries} (h : entries.AreWritable) : (Value.map entries).IsWritable := by
  obtain ⟨texts, htexts⟩ : ∃ texts, printEntries .spaced entries = .ok texts := by
    induction entries with
    | nil => exact ⟨[], by rw [printEntries]⟩
    | cons e entries ih =>
      obtain ⟨⟨⟨key, hkey⟩, text, htext⟩, hentries⟩ := List.forall_mem_cons.1 h
      obtain ⟨texts, htexts⟩ := ih hentries
      obtain ⟨k, v⟩ := e
      obtain rfl : k = .str key := hkey
      exact ⟨_ :: texts, by rw [printEntries, keyText, htext, htexts]; rfl⟩
  exact ⟨_, by rw [print, htexts]; rfl⟩

/-- What few digits are read as is written again. -/
theorem isWritable_digits {s : List Char} (hs : ∀ c ∈ s, c.isDigit = true)
    (hlength : ¬Text.maxNumeralDigits < s.length) {n : Int}
    (hn : n.natAbs = Text.ofDigitValues (s.map Decimal.asciiDigit)) : (Value.int n).IsWritable := by
  have hdigits : ∀ d ∈ s.map Decimal.asciiDigit, d < 10 := by
    refine List.forall_mem_map.2 fun c hc => ?_
    have hcode := Text.toNat_of_isDigit (hs c hc)
    rw [Decimal.asciiDigit]
    omega
  have hlt := Text.ofDigitValues_lt hdigits
  rw [List.length_map, ← hn] at hlt
  exact ⟨_, by rw [print, integerText, if_pos (Text.isWritten_of_lt (Nat.not_lt.1 hlength) hlt)]⟩

theorem isWritable_number {negative : Bool} {s rest : List Char} {v : Value}
    (h : number negative s = .ok (v, rest)) : v.IsWritable := by
  unfold number at h
  extract_lets whole n at h
  have hdigits : ∀ c ∈ whole, c.isDigit = true := by
    unfold whole
    split
    · exact List.forall_mem_singleton.2 rfl
    · exact List.all_eq_true.1 List.all_takeWhile
  clear_value whole
  split at h
  · cases h
  · split at h
    split at h
    · split at h
      · cases h
      · case _ hlength =>
        cases h
        exact isWritable_digits hdigits hlength (by cases negative <;> simp [n])
    · split at h
      · cases h
        exact ⟨_, by rw [print]⟩
      · cases h

theorem isWritable_words : ∀ w ∈ words, w.2.IsWritable := by
  simp only [words, List.forall_mem_cons]
  refine ⟨?_, ?_, ?_, ?_, ?_, ?_, List.forall_mem_nil _⟩
  all_goals exact ⟨_, by rw [print]⟩

theorem isWritable_atom {s rest : List Char} {v : Value} (h : atom s = .ok (v, rest)) : v.IsWritable := by
  unfold atom at h
  split at h
  · rename_i hfind
    cases h
    exact isWritable_words _ (List.mem_of_find?_eq_some hfind)
  · split at h
    all_goals exact isWritable_number h

/-- What is behind a separator is shorter than the text with the separator. -/
theorem skip_length_lt {s u : List Char} {c : Char} (h : (skip s).1 = c :: u) :
    (skip u).1.length < s.length := by
  have hskip := (skip s).2
  rw [h, List.length_cons] at hskip
  exact Nat.lt_of_le_of_lt (skip u).2 hskip

/-- A value that is read from a text has a JSON text. -/
def ValueIsWritable (s : List Char) : Prop := ∀ v r, value s = .ok (v, r) → v.IsWritable

/-- The items that are read from a text have JSON texts. -/
def ItemsAreWritable (s : List Char) : Prop := ∀ vs r, items s = .ok (vs, r) → ∀ v ∈ vs, v.IsWritable

/-- The members that are read from a text have JSON texts when those that are known have. -/
def MembersAreWritable (s : List Char) : Prop :=
  ∀ known es r, known.AreWritable → members known s = .ok (es, r) → es.AreWritable

theorem valueIsWritable_of {s : List Char} (hitems : ∀ t, t.length < s.length → ItemsAreWritable t)
    (hmembers : ∀ t, t.length < s.length → MembersAreWritable t) : ValueIsWritable s := by
  intro v r h
  unfold value at h
  split at h
  case h_1 rest =>
    obtain ⟨⟨cs, r⟩, -, h⟩ := bind_eq_ok.1 h
    obtain ⟨rfl, -⟩ := Prod.mk.inj (Except.ok.inj h)
    exact ⟨_, by rw [print]⟩
  case h_2 rest =>
    have hlt : (skip rest).1.length < ('[' :: rest).length := Nat.lt_succ_of_le (skip rest).2
    dsimp only at h
    split at h
    case h_1 =>
      obtain ⟨rfl, -⟩ := Prod.mk.inj (Except.ok.inj h)
      exact isWritable_list (List.forall_mem_nil _)
    case h_2 =>
      obtain ⟨⟨vs, r⟩, hvs, h⟩ := bind_eq_ok.1 h
      obtain ⟨rfl, -⟩ := Prod.mk.inj (Except.ok.inj h)
      exact isWritable_list (hitems _ hlt vs r hvs)
  case h_3 rest =>
    have hlt : (skip rest).1.length < ('\x7b' :: rest).length := Nat.lt_succ_of_le (skip rest).2
    dsimp only at h
    split at h
    case h_1 =>
      obtain ⟨rfl, -⟩ := Prod.mk.inj (Except.ok.inj h)
      exact isWritable_map (List.forall_mem_nil _)
    case h_2 =>
      obtain ⟨⟨es, r⟩, hes, h⟩ := bind_eq_ok.1 h
      obtain ⟨rfl, -⟩ := Prod.mk.inj (Except.ok.inj h)
      exact isWritable_map (hmembers _ hlt [] es r (List.forall_mem_nil _) hes)
  case h_4 =>
    obtain ⟨⟨w, t⟩, hatom, h⟩ := bind_eq_ok.1 h
    obtain ⟨r, -, h⟩ := bind_eq_ok.1 h
    obtain ⟨rfl, -⟩ := Prod.mk.inj (Except.ok.inj h)
    exact isWritable_atom hatom

theorem itemsAreWritable_of {s : List Char} (hvalue : ValueIsWritable s)
    (hitems : ∀ t, t.length < s.length → ItemsAreWritable t) : ItemsAreWritable s := by
  intro vs r h
  rw [items] at h
  obtain ⟨⟨v, r⟩, hv, h⟩ := bind_eq_ok.1 h
  have hhead := hvalue v r hv
  dsimp only at h
  split at h
  case h_1 =>
    obtain ⟨rfl, -⟩ := Prod.mk.inj (Except.ok.inj h)
    exact List.forall_mem_singleton.2 hhead
  case h_2 u hu =>
    have hlt : (skip u).1.length < s.length := Nat.lt_trans (skip_length_lt hu) r.2
    obtain ⟨⟨vs', x⟩, hvs, h⟩ := bind_eq_ok.1 h
    obtain ⟨rfl, -⟩ := Prod.mk.inj (Except.ok.inj h)
    exact List.forall_mem_cons.2 ⟨hhead, hitems _ hlt vs' x hvs⟩
  case h_3 => cases h

theorem membersAreWritable_of {s : List Char} (hvalue : ∀ t, t.length < s.length → ValueIsWritable t)
    (hmembers : ∀ t, t.length < s.length → MembersAreWritable t) : MembersAreWritable s := by
  intro known es r hknown h
  unfold members at h
  split at h
  case h_2 => cases h
  case h_1 rest =>
    obtain ⟨⟨cs, r⟩, -, h⟩ := bind_eq_ok.1 h
    dsimp only at h
    split at h
    case h_2 => cases h
    case h_1 u hu =>
      have hlt : (skip u).1.length < ('"' :: rest).length :=
        Nat.lt_trans (skip_length_lt hu) (Nat.lt_succ_of_lt r.2)
      obtain ⟨⟨v, x⟩, hv, h⟩ := bind_eq_ok.1 h
      have hput := hknown.put (String.ofList cs) (hvalue _ hlt v x hv)
      dsimp only at h
      split at h
      case h_1 =>
        obtain ⟨rfl, -⟩ := Prod.mk.inj (Except.ok.inj h)
        exact hput
      case h_2 z hz =>
        have hlt' : (skip z).1.length < ('"' :: rest).length :=
          Nat.lt_trans (skip_length_lt hz) (Nat.lt_trans x.2 hlt)
        obtain ⟨⟨es', b⟩, hes, h⟩ := bind_eq_ok.1 h
        obtain ⟨rfl, -⟩ := Prod.mk.inj (Except.ok.inj h)
        exact hmembers _ hlt' _ es' b hput hes
      case h_3 => cases h

/-- JSON has a text for a value that it reads. -/
theorem readings_writable (s : List Char) :
    ValueIsWritable s ∧ ItemsAreWritable s ∧ MembersAreWritable s := by
  induction hn : s.length using Nat.strong_induction_on generalizing s with
  | h n ih =>
    subst hn
    have hvalue := valueIsWritable_of (fun t ht => (ih _ ht t rfl).2.1) (fun t ht => (ih _ ht t rfl).2.2)
    exact ⟨hvalue, itemsAreWritable_of hvalue fun t ht => (ih _ ht t rfl).2.1,
      membersAreWritable_of (fun t ht => (ih _ ht t rfl).1) fun t ht => (ih _ ht t rfl).2.2⟩

theorem isWritable_parse {s : String} {v : Value} (h : parse s = .ok v) : v.IsWritable := by
  obtain ⟨⟨w, r⟩, hvalue, h⟩ := bind_eq_ok.1 h
  dsimp only at h
  split at h
  · obtain rfl := Except.ok.inj h
    exact (readings_writable _).1 _ _ hvalue
  · cases h

theorem isWritable_of_printEntries {entries : Entries} {texts : List String}
    (h : printEntries .spaced entries = .ok texts) : ∀ e ∈ entries, e.2.IsWritable := by
  induction entries generalizing texts with
  | nil => exact List.forall_mem_nil _
  | cons e entries ih =>
    rw [printEntries] at h
    obtain ⟨key, -, h⟩ := bind_eq_ok.1 h
    obtain ⟨text, htext, h⟩ := bind_eq_ok.1 h
    obtain ⟨texts, htexts, -⟩ := bind_eq_ok.1 h
    exact List.forall_mem_cons.2 ⟨⟨text, htext⟩, ih htexts⟩

/-- The values of a map that has a JSON text have JSON texts. -/
theorem isWritable_of_mem {entries : Entries} (h : (Value.map entries).IsWritable) :
    ∀ e ∈ entries, e.2.IsWritable := by
  obtain ⟨text, h⟩ := h
  rw [print] at h
  obtain ⟨texts, htexts, -⟩ := bind_eq_ok.1 h
  exact isWritable_of_printEntries htexts

end Json

/-! ## Records -/

namespace PushRecord

theorem isWritable_valueAt? {entries : Entries} (h : ∀ e ∈ entries, e.2.IsWritable) (key : String)
    {v : Value} (hv : v.IsWritable) : ((entries.valueAt? key).getD v).IsWritable := by
  cases hkey : entries.valueAt? key with
  | none => exact hv
  | some w =>
    obtain ⟨e, he, rfl⟩ := Option.map_eq_some_iff.1 hkey
    exact h e (List.mem_of_find?_eq_some he)

theorem isWritable_ofEntries {entries : Entries} {r : PushRecord} (h : ∀ e ∈ entries, e.2.IsWritable)
    (hr : ofEntries entries = .ok r) : ∀ f ∈ r.fields, f.2.IsWritable := by
  have hnull (key : String) : (entries.valueAt key).IsWritable :=
    isWritable_valueAt? h key ⟨_, by rw [Json.print]⟩
  have hfalse : ((entries.valueAt? "dry_run").getD (.bool false)).IsWritable :=
    isWritable_valueAt? h _ ⟨_, by rw [Json.print]⟩
  rw [ofEntries] at hr
  cases hknown : entries.find? fun e => !(e.1.asText?.any names.contains) with
  | some e =>
    rw [hknown] at hr
    cases hr
  | none =>
    cases hrequired : requiredNames.find? fun n => !entries.hasKey n with
    | some n =>
      rw [hknown, hrequired] at hr
      cases hr
    | none =>
      rw [hknown, hrequired] at hr
      obtain rfl := Except.ok.inj hr
      simp only [fields, List.forall_mem_cons]
      exact ⟨hnull _, hnull _, hnull _, hnull _, hnull _, hnull _, hnull _, hfalse, hnull _, hnull _,
        List.forall_mem_nil _⟩

/-- A record that is read from a line has a line. -/
theorem toJson_of_ofJson {line : String} {r : PushRecord} (h : ofJson line = .ok r) :
    ∃ line', r.toJson = .ok line' := by
  rw [ofJson] at h
  split at h
  case h_3 entries hparse =>
    have hfields := isWritable_ofEntries (Json.isWritable_of_mem (Json.isWritable_parse hparse)) h
    exact r.toJson_cases.elim And.right fun hn => absurd hfields hn.1
  all_goals cases h

end PushRecord

end GateRollout
