/-!
# Texts that determine what they were written for

A way of writing things is read back when the text of a thing, whatever stands behind it, determines what
matters of the thing and where the text ends.  Such ways are put together by writing one text behind the
other, and a list is among them when its end does not begin like its members.  The letters of a text are
characters, or anything else that stands in a row.
-/

namespace GateRollout.Text

variable {α β γ δ ε : Type}

/-- Whatever stands behind it, a text determines what a view shows of the thing it was written for, and
where the text ends. -/
def Determines (f : α → List ε) (view : α → β) : Prop :=
  ∀ ⦃a b r s⦄, f a ++ r = f b ++ s → view a = view b ∧ r = s

/-- Texts of two kinds, whatever stands behind them, are never alike. -/
def Apart (f : α → List ε) (g : β → List ε) : Prop := ∀ a b r s, f a ++ r ≠ g b ++ s

/-- What stands before the first occurrence of a letter is determined. -/
theorem append_cons_inj {c : ε} {x y r s : List ε} (hx : c ∉ x) (hy : c ∉ y)
    (h : x ++ c :: r = y ++ c :: s) : x = y ∧ r = s := by
  induction x generalizing y with
  | nil =>
    cases y with
    | nil => exact ⟨rfl, (List.cons.inj h).2⟩
    | cons d y => exact absurd (List.cons.inj h).1 fun hc => hy (hc ▸ List.mem_cons_self)
  | cons d x ih =>
    cases y with
    | nil => exact absurd (List.cons.inj h).1 fun hc => hx (hc ▸ List.mem_cons_self)
    | cons e y =>
      obtain ⟨rfl, hrest⟩ := List.cons.inj h
      obtain ⟨rfl, hend⟩ := ih (fun hc => hx (List.mem_cons_of_mem _ hc))
        (fun hc => hy (List.mem_cons_of_mem _ hc)) hrest
      exact ⟨rfl, hend⟩

/-- Where a letter does not occur before some point, what begins with it begins behind that point. -/
theorem suffix_of_suffix_append {c : ε} {x y r : List ε} (hx : c ∉ x) (h : c :: r <:+ x ++ y) :
    c :: r <:+ y := by
  induction x with
  | nil => exact h
  | cons d x ih =>
    rw [List.mem_cons, not_or] at hx
    rw [List.cons_append, List.suffix_cons_iff] at h
    rcases h with heq | hsuffix
    · exact absurd (List.cons.inj heq).1 hx.1
    · exact ih hx.2 hsuffix

/-- What stands before the first occurrence of a letter is cut off there. -/
theorem takeWhile_append_cons [BEq ε] [LawfulBEq ε] {c : ε} {x : List ε} (h : c ∉ x) (y : List ε) :
    (x ++ c :: y).takeWhile (· != c) = x ∧ (x ++ c :: y).dropWhile (· != c) = c :: y := by
  have hall : ∀ d ∈ x, (d != c) = true := fun d hd => by simpa using fun hdc : d = c => h (hdc ▸ hd)
  rw [List.takeWhile_append_of_pos hall, List.dropWhile_append_of_pos hall]
  simp

/-- Where a letter does not occur, nothing is cut off. -/
theorem takeWhile_of_not_mem [BEq ε] [LawfulBEq ε] {c : ε} {x : List ε} (h : c ∉ x) :
    x.takeWhile (· != c) = x := by
  induction x with
  | nil => rfl
  | cons d x ih =>
    rw [List.mem_cons, not_or] at h
    rw [List.takeWhile_cons_of_pos (by simpa using Ne.symm h.1), ih h.2]

namespace Determines

variable {f : α → List ε} {g : α → List ε} {v : α → β} {w : α → γ}

/-- A text that is always the same says nothing, and its end is known. -/
theorem const (x : List ε) : Determines (fun _ : α => x) fun _ => () :=
  fun _ _ _ _ h => ⟨rfl, List.append_cancel_left h⟩

theorem append (hf : Determines f v) (hg : Determines g w) :
    Determines (fun a => f a ++ g a) fun a => (v a, w a) := by
  intro a b r s h
  rw [List.append_assoc, List.append_assoc] at h
  obtain ⟨hv, h⟩ := hf h
  obtain ⟨hw, h⟩ := hg h
  exact ⟨Prod.ext hv hw, h⟩

/-- What is seen determines anything that depends on it alone. -/
theorem imp (hf : Determines f v) (h : ∀ a b, v a = v b → w a = w b) : Determines f w :=
  fun a b _ _ hab => (hf hab).imp_left (h a b)

/-- A text determines what it is written for also when that is a part of something. -/
theorem comp (hf : Determines f v) (k : δ → α) : Determines (fun d => f (k d)) fun d => v (k d) :=
  fun _ _ _ _ h => hf h

/-- The members of a list up to an end that does not begin like a member. -/
theorem flatMap_append {g : δ → List ε} {w : δ → γ} (hf : Determines f v) (hg : Determines g w)
    (hapart : Apart f g) (items : δ → List α) :
    Determines (fun d => (items d).flatMap f ++ g d) fun d => ((items d).map v, w d) := by
  have hitems : ∀ (xs ys : List α) (d e : δ) (r s : List ε),
      xs.flatMap f ++ (g d ++ r) = ys.flatMap f ++ (g e ++ s) →
        (xs.map v = ys.map v ∧ w d = w e) ∧ r = s := by
    intro xs
    induction xs with
    | nil =>
      intro ys d e r s h
      cases ys with
      | nil => exact (hg h).imp_left fun hw => ⟨rfl, hw⟩
      | cons y ys =>
        rw [List.flatMap_cons, List.append_assoc] at h
        exact absurd h.symm (hapart y d _ r)
    | cons x xs ih =>
      intro ys d e r s h
      rw [List.flatMap_cons, List.append_assoc] at h
      cases ys with
      | nil => exact absurd h (hapart x e _ s)
      | cons y ys =>
        rw [List.flatMap_cons, List.append_assoc] at h
        obtain ⟨hv, h⟩ := hf h
        obtain ⟨⟨hmap, hw⟩, h⟩ := ih ys d e r s h
        exact ⟨⟨by rw [List.map_cons, List.map_cons, hv, hmap], hw⟩, h⟩
  intro d e r s h
  rw [List.append_assoc, List.append_assoc] at h
  obtain ⟨⟨hmap, hw⟩, h⟩ := hitems _ _ d e r s h
  exact ⟨Prod.ext hmap hw, h⟩

end Determines

end GateRollout.Text
