import GateRollout.Proofs.Journal
import GateRollout.Yaml.Reading

/-!
# Keys of a document

Whatever a document holds, the maps that are read from it have only keys that can be keys.
-/

namespace GateRollout.Yaml

open Misfit

/-! ## Parts of a collection -/

namespace Misfit

variable {α β : Type}

theorem both_eq_ok {a : Except Misfit α} {b : Except Misfit β} {x : α} {y : β} (h : both a b = .ok (x, y)) :
    a = .ok x ∧ b = .ok y := by
  rcases a with e | x' <;> rcases b with f | y'
  all_goals cases h
  exact ⟨rfl, rfl⟩

/-- All parts are there where the whole is. -/
theorem mem_of_all {parts : List (Except Misfit α)} {xs : List α} (h : all parts = .ok xs) :
    ∀ x ∈ xs, .ok x ∈ parts := by
  induction parts generalizing xs with
  | nil =>
    cases h
    nofun
  | cons a parts ih =>
    obtain ⟨⟨y, ys⟩, hboth, rfl⟩ := map_eq_ok.1 h
    obtain ⟨ha, hrest⟩ := both_eq_ok hboth
    rintro x (_ | ⟨_, hx⟩)
    · exact ha ▸ List.mem_cons_self
    · exact List.mem_cons_of_mem _ (ih hrest x hx)

end Misfit

namespace Node

theorem mem_insert {es : Entries} {key v : Value} {e : Value × Value} (h : e ∈ es.insert key v) :
    (e.1 = key ∨ ∃ w, (e.1, w) ∈ es) ∧ (e.2 = v ∨ e ∈ es) := by
  rw [Entries.insert] at h
  split at h
  · obtain ⟨e', he', rfl⟩ := List.mem_map.1 h
    split
    · exact ⟨.inr ⟨_, he'⟩, .inl rfl⟩
    · exact ⟨.inr ⟨_, he'⟩, .inr he'⟩
  · rcases List.mem_append.1 h with h | h
    · exact ⟨.inr ⟨_, h⟩, .inr h⟩
    · obtain rfl := List.mem_singleton.1 h
      exact ⟨.inl rfl, .inl rfl⟩

/-- The keys and the values of a map are those of the pairs. -/
theorem mem_foldl_insert {pairs : List (Value × Value)} {es : Entries} {e : Value × Value}
    (h : e ∈ pairs.foldl (fun es (k, v) => es.insert k v) es) :
    (∃ w, (e.1, w) ∈ es ++ pairs) ∧ ∃ key, (key, e.2) ∈ es ++ pairs := by
  induction pairs generalizing es with
  | nil => exact ⟨⟨e.2, List.mem_append_left _ h⟩, e.1, List.mem_append_left _ h⟩
  | cons p pairs ih =>
    obtain ⟨⟨w, hw⟩, key, hkey⟩ := ih h
    constructor
    · rcases List.mem_append.1 hw with hw | hw
      · rcases (mem_insert hw).1 with hp | ⟨w', hw'⟩
        · exact ⟨p.2, List.mem_append_right _ (hp ▸ List.mem_cons_self)⟩
        · exact ⟨w', List.mem_append_left _ hw'⟩
      · exact ⟨w, List.mem_append_right _ (List.mem_cons_of_mem _ hw)⟩
    · rcases List.mem_append.1 hkey with hkey | hkey
      · rcases (mem_insert hkey).2 with hp | hes
        · exact ⟨p.1, List.mem_append_right _ (hp ▸ List.mem_cons_self)⟩
        · exact ⟨key, List.mem_append_left _ hes⟩
      · exact ⟨key, List.mem_append_right _ (List.mem_cons_of_mem _ hkey)⟩

theorem mem_mapOf {pairs : List (Value × Value)} {e : Value × Value} (h : e ∈ mapOf pairs) :
    (∃ w, (e.1, w) ∈ pairs) ∧ ∃ key, (key, e.2) ∈ pairs :=
  mem_foldl_insert h

/-! ## Scalars -/

theorem unhashable?_of_readTimestamp {s : String} {v : Value} (h : Scalar.readTimestamp s = .ok v) :
    v.unhashable? = none := by
  rw [Scalar.readTimestamp] at h
  split at h
  · cases h
  · have hv := mapError_eq_ok.1 h
    split at hv
    · obtain ⟨d, -, rfl⟩ := map_eq_ok.1 hv
      rfl
    · obtain ⟨t, -, rfl⟩ := map_eq_ok.1 hv
      rfl

theorem unhashable?_of_reader {t : CoreTag} {read : Mark → String → Except Fault Value}
    (h : Scalar.reader? t = some read) {mark : Mark} {s : String} {v : Value} (hv : read mark s = .ok v) :
    v.unhashable? = none := by
  cases t with
  | null | str =>
    obtain rfl := Option.some.inj h
    cases hv
    rfl
  | bool | int | float =>
    obtain rfl := Option.some.inj h
    obtain ⟨x, -, rfl⟩ := map_eq_ok.1 (mapError_eq_ok.1 hv)
    rfl
  | binary =>
    obtain rfl := Option.some.inj h
    obtain ⟨bs, -, rfl⟩ := map_eq_ok.1 hv
    rfl
  | timestamp =>
    obtain rfl := Option.some.inj h
    exact unhashable?_of_readTimestamp (mapError_eq_ok.1 hv)
  | _ => cases h

theorem tag_of_reader {t : CoreTag} {read : Mark → String → Except Fault Value}
    (h : Scalar.reader? t = some read) : isCollectionTag (.core t) = false := by
  cases t
  all_goals first | rfl | cases h

/-! ## Nodes -/

/-- What is read from some node. -/
def IsRead (v : Value) : Prop := ∃ level fuel n, valueAt level fuel n = .ok v

/-- What a node of a collection's tag is read as: a list, a set, or a map of what is read below. -/
inductive IsCollection : Value → Prop
  | list (vs : List Value) : IsCollection (.list vs)
  | set (vs : List Value) : IsCollection (.set vs)
  | map {pairs : List (Value × Value)} (h : ∀ e ∈ pairs, e.1.unhashable? = none ∧ IsRead e.2) :
      IsCollection (.map (mapOf pairs))

theorem tag_of_checkKey {start : Mark} {n : Node} (h : checkKey start n = .ok ()) : isCollectionTag n.tag =
    false := by
  rw [checkKey] at h
  cases htag : isCollectionTag n.tag with
  | false => rfl
  | true =>
    rw [htag] at h
    cases h

/-- What is read from a node by its tag: a collection, or what can be a key. -/
theorem valueAt_eq_ok {level fuel : Nat} {n : Node} {v : Value} (h : valueAt level fuel n = .ok v) :
    (isCollectionTag n.tag = true ∧ IsCollection v) ∨
      (isCollectionTag n.tag = false ∧ v.unhashable? = none) := by
  induction fuel generalizing level n v with
  | zero => cases h
  | succ fuel ih =>
    unfold valueAt at h
    dsimp only at h
    split at h
    · cases h
    · case h_2 htag =>
      obtain ⟨ns, -, h⟩ := bind_eq_ok.1 h
      obtain ⟨vs, -, h⟩ := bind_eq_ok.1 h
      obtain rfl := Except.ok.inj h
      exact .inl ⟨by rw [htag]; rfl, .list vs⟩
    · case h_3 htag =>
      obtain ⟨es, -, h⟩ := bind_eq_ok.1 h
      obtain ⟨pairs, hpairs, h⟩ := bind_eq_ok.1 h
      obtain rfl := Except.ok.inj h
      refine .inl ⟨by rw [htag]; rfl, .map fun e he => ?_⟩
      obtain ⟨⟨key, value⟩, -, hpair⟩ := List.mem_map.1 (mem_of_all hpairs e he)
      obtain ⟨⟨⟨k, u⟩, w⟩, hboth, rfl⟩ := map_eq_ok.1 hpair
      obtain ⟨hkey, hvalue⟩ := both_eq_ok hboth
      obtain ⟨hkey, hcheck⟩ := both_eq_ok hkey
      refine ⟨?_, _, _, _, hvalue⟩
      have hchecked := tag_of_checkKey (mapError_eq_ok.1 hcheck)
      rcases ih hkey with ⟨htrue, -⟩ | ⟨-, hk⟩
      · rw [htrue] at hchecked
        cases hchecked
      · exact hk
    · case h_4 htag =>
      obtain ⟨es, -, h⟩ := bind_eq_ok.1 h
      obtain ⟨pairs, -, h⟩ := bind_eq_ok.1 h
      obtain rfl := Except.ok.inj h
      exact .inl ⟨by rw [htag]; rfl, .set _⟩
    · case h_5 htag =>
      obtain ⟨ns, -, h⟩ := bind_eq_ok.1 h
      obtain ⟨ps, -, h⟩ := bind_eq_ok.1 h
      obtain rfl := Except.ok.inj h
      exact .inl ⟨by rw [htag]; rfl, .list _⟩
    · case h_6 htag =>
      obtain ⟨ns, -, h⟩ := bind_eq_ok.1 h
      obtain ⟨ps, -, h⟩ := bind_eq_ok.1 h
      obtain rfl := Except.ok.inj h
      exact .inl ⟨by rw [htag]; rfl, .list _⟩
    · case h_7 n _ _ t _ _ _ _ _ _ htag =>
      split at h
      · case h_1 read hread =>
        have hscalar : n.textOf >>= read n.mark = .ok v := mapError_eq_ok.1 h
        obtain ⟨s, -, hs⟩ := bind_eq_ok.1 hscalar
        exact .inr ⟨htag ▸ tag_of_reader hread, unhashable?_of_reader hread hs⟩
      · cases h
    · cases h

/-- A map that is read has keys that can be keys, and what it holds is read. -/
theorem IsRead.map {entries : Entries} (h : IsRead (.map entries)) :
    ∀ e ∈ entries, e.1.unhashable? = none ∧ IsRead e.2 := by
  obtain ⟨level, fuel, n, h⟩ := h
  intro e he
  rcases valueAt_eq_ok h with ⟨-, hcollection⟩ | ⟨-, hnone⟩
  · cases hcollection with
    | map hpairs =>
      obtain ⟨⟨w, hkey⟩, key, hvalue⟩ := mem_mapOf he
      exact ⟨(hpairs _ hkey).1, (hpairs _ hvalue).2⟩
  · cases hnone

end Node

/-- What a text is read as is nothing, or what one of its nodes is read as. -/
theorem isRead_of_read {text : String} {v : Value} (h : read text = .ok v) : v = .null ∨ Node.IsRead v := by
  rw [read] at h
  dsimp only at h
  split at h
  · cases h
  · obtain ⟨n?, -, h⟩ := bind_eq_ok.1 h
    cases n? with
    | none => exact .inl (Except.ok.inj h).symm
    | some n => exact .inr ⟨_, _, _, mapError_eq_ok.1 h⟩

end GateRollout.Yaml
