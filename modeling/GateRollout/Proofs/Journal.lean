import Mathlib.Data.List.Forall2
import GateRollout.Journal

/-!
# Running actions

What an action does when it is run from a journal: its result and the journal after it.  Most actions
of this library only write records.  Such an action is *quiet*: its result is the same from every
journal, and the state stays as it was.
-/

namespace GateRollout

theorem bind_ok {ε α β : Type} {x : Except ε α} {f : α → Except ε β} (hx : ∃ a, x = .ok a)
    (hf : ∀ a, ∃ b, f a = .ok b) : ∃ b, x >>= f = .ok b := by
  obtain ⟨a, rfl⟩ := hx
  exact hf a

theorem bind_eq_ok {ε α β : Type} {x : Except ε α} {f : α → Except ε β} {b : β} :
    x >>= f = .ok b ↔ ∃ a, x = .ok a ∧ f a = .ok b := by
  cases x with
  | ok a => exact ⟨fun h => ⟨a, rfl, h⟩, fun ⟨_, ha, hb⟩ => Except.ok.inj ha ▸ hb⟩
  | error e => exact ⟨nofun, fun ⟨_, ha, _⟩ => nomatch ha⟩

theorem map_eq_ok {ε α β : Type} {x : Except ε α} {f : α → β} {b : β} :
    x.map f = .ok b ↔ ∃ a, x = .ok a ∧ f a = b := by
  cases x with
  | ok a => exact ⟨fun h => ⟨a, rfl, Except.ok.inj h⟩, fun ⟨_, ha, hb⟩ => Except.ok.inj ha ▸ hb ▸ rfl⟩
  | error e => exact ⟨nofun, fun ⟨_, ha, _⟩ => nomatch ha⟩

theorem bind_eq_error {ε α β : Type} {x : Except ε α} {f : α → Except ε β} {e : ε} :
    x >>= f = .error e ↔ x = .error e ∨ ∃ a, x = .ok a ∧ f a = .error e := by
  cases x with
  | ok a =>
    constructor
    · intro h
      exact .inr ⟨a, rfl, h⟩
    · rintro (h | ⟨_, ⟨rfl⟩, h⟩)
      · cases h
      · exact h
  | error e' =>
    constructor
    · intro h
      exact .inl (Except.error.inj h ▸ rfl)
    · rintro (h | ⟨_, h, -⟩)
      · exact Except.error.inj h ▸ rfl
      · cases h

@[simp] theorem mapError_ok {ε δ α : Type} (f : ε → δ) (a : α) :
    (Except.ok a).mapError f = .ok a := rfl

@[simp] theorem mapError_error {ε δ α : Type} (f : ε → δ) (e : ε) :
    (Except.error e : Except ε α).mapError f = .error (f e) := rfl

theorem mapError_eq_ok {ε δ α : Type} {x : Except ε α} {f : ε → δ} {a : α} :
    x.mapError f = .ok a ↔ x = .ok a := by
  cases x <;> simp

/-- What succeeds on every member succeeds on a list. -/
theorem mapM_ok {ε α β : Type} {f : α → Except ε β} {xs : List α} (h : ∀ x ∈ xs, ∃ y, f x = .ok y) :
    ∃ ys, xs.mapM f = .ok ys := by
  induction xs with
  | nil => exact ⟨[], rfl⟩
  | cons x xs ih =>
    obtain ⟨y, hy⟩ := h x List.mem_cons_self
    obtain ⟨ys, hys⟩ := ih fun x hx => h x (List.mem_cons_of_mem _ hx)
    exact ⟨y :: ys, by rw [List.mapM_cons, hy, hys]; rfl⟩

/-- What comes of a list comes of its members one by one. -/
theorem mapM_eq_ok_iff {ε α β : Type} {f : α → Except ε β} {xs : List α} {ys : List β} :
    xs.mapM f = .ok ys ↔ List.Forall₂ (fun x y => f x = .ok y) xs ys := by
  induction xs generalizing ys with
  | nil =>
    rw [List.mapM_nil, List.forall₂_nil_left_iff]
    exact ⟨fun h => (Except.ok.inj h).symm, fun h => h ▸ rfl⟩
  | cons x xs ih =>
    rw [List.mapM_cons, bind_eq_ok, List.forall₂_cons_left_iff]
    constructor
    · rintro ⟨y, hy, h⟩
      obtain ⟨ys', hys, h⟩ := bind_eq_ok.1 h
      exact ⟨y, ys', hy, ih.1 hys, (Except.ok.inj h).symm⟩
    · rintro ⟨y, ys', hy, hys, rfl⟩
      exact ⟨y, hy, bind_eq_ok.2 ⟨ys', ih.2 hys, rfl⟩⟩

/-- Every member of what comes of a list comes of some member of the list. -/
theorem mem_of_mapM_eq_ok {ε α β : Type} {f : α → Except ε β} {xs : List α} {ys : List β}
    (h : xs.mapM f = .ok ys) : ∀ y ∈ ys, ∃ x ∈ xs, f x = .ok y := by
  induction xs generalizing ys with
  | nil =>
    cases h
    simp
  | cons x xs ih =>
    rw [List.mapM_cons] at h
    obtain ⟨z, hz, h⟩ := bind_eq_ok.1 h
    obtain ⟨zs, hzs, h⟩ := bind_eq_ok.1 h
    obtain rfl := Except.ok.inj h
    intro y hy
    rcases List.mem_cons.1 hy with rfl | hy
    · exact ⟨x, List.mem_cons_self, hz⟩
    · obtain ⟨w, hw, hfw⟩ := ih hzs y hy
      exact ⟨w, List.mem_cons_of_mem _ hw, hfw⟩

/-- What comes of a member of a list is a member of what comes of the list. -/
theorem mem_of_mapM_of_mem {ε α β : Type} {f : α → Except ε β} {xs : List α} {ys : List β}
    (h : xs.mapM f = .ok ys) {x : α} (hx : x ∈ xs) {y : β} (hy : f x = .ok y) : y ∈ ys := by
  induction mapM_eq_ok_iff.1 h with
  | nil => cases hx
  | @cons x' y' xs ys hfirst hrest ih =>
    rcases List.mem_cons.1 hx with rfl | hx
    · obtain rfl := Except.ok.inj (hy.symm.trans hfirst)
      exact List.mem_cons_self
    · exact List.mem_cons_of_mem _ (ih (mapM_eq_ok_iff.2 hrest) hx)

/-- What succeeds on a list succeeds on every member. -/
theorem ok_of_mapM_eq_ok {ε α β : Type} {f : α → Except ε β} {xs : List α} {ys : List β}
    (h : xs.mapM f = .ok ys) : ∀ x ∈ xs, ∃ y, f x = .ok y := by
  induction xs generalizing ys with
  | nil => simp
  | cons x xs ih =>
    rw [List.mapM_cons] at h
    obtain ⟨z, hz, h⟩ := bind_eq_ok.1 h
    obtain ⟨zs, hzs, -⟩ := bind_eq_ok.1 h
    exact List.forall_mem_cons.2 ⟨⟨z, hz⟩, ih hzs⟩

/-- What fails on a list fails on some member in the same way. -/
theorem mem_of_mapM_eq_error {ε α β : Type} {f : α → Except ε β} {xs : List α} {e : ε}
    (h : xs.mapM f = .error e) : ∃ x ∈ xs, f x = .error e := by
  induction xs with
  | nil => cases h
  | cons x xs ih =>
    rw [List.mapM_cons] at h
    rcases bind_eq_error.1 h with hx | ⟨y, -, h⟩
    · exact ⟨x, List.mem_cons_self, hx⟩
    · rcases bind_eq_error.1 h with hxs | ⟨ys, -, h⟩
      · obtain ⟨w, hw, hfw⟩ := ih hxs
        exact ⟨w, List.mem_cons_of_mem _ hw, hfw⟩
      · cases h

namespace Action

variable {σ α β : Type}

/-- Run an action from a journal: its result, and the journal after it. -/
def exec (x : Action σ α) (j : Journal σ) : Except Failure α × Journal σ := x.run.run j

@[simp] theorem exec_pure (a : α) (j : Journal σ) :
    exec (pure a : Action σ α) j = (.ok a, j) := rfl

@[simp] theorem exec_throw (f : Failure) (j : Journal σ) :
    exec (throw f : Action σ α) j = (.error f, j) := rfl

@[simp] theorem exec_ofExcept (r : Except Failure α) (j : Journal σ) :
    exec (ofExcept r) j = (r, j) := rfl

@[simp] theorem exec_attempt (x : Action σ α) (j : Journal σ) :
    exec (attempt x) j = (.ok (x.exec j).1, (x.exec j).2) := rfl

@[simp] theorem exec_log (l : Level) (m : String) (j : Journal σ) :
    exec (log l m) j = (.ok (), { j with records := j.records ++ [⟨l, m⟩] }) := rfl

@[simp] theorem exec_logAside (l : Level) (m : String) (j : Journal σ) :
    exec (logAside l m) j = (.ok (), { j with asides := j.asides ++ [⟨l, m⟩] }) := rfl

@[simp] theorem exec_world (j : Journal σ) : exec world j = (.ok j.world, j) := rfl

@[simp] theorem exec_modifyWorld (f : σ → σ) (j : Journal σ) :
    exec (modifyWorld f) j = (.ok (), { j with world := f j.world }) := rfl

/-- Two actions in a row: the second starts where the first ended, unless the first failed. -/
theorem exec_bind (x : Action σ α) (f : α → Action σ β) (j : Journal σ) :
    (x >>= f).exec j =
      match x.exec j with
      | (.ok a, j') => (f a).exec j'
      | (.error e, j') => (.error e, j') := by
  change (ExceptT.bind x f).run.run j = _
  rcases h : x.exec j with ⟨_ | a, j'⟩
  all_goals
  · simp only [exec] at h
    simp only [exec, ExceptT.bind, ExceptT.run, ExceptT.mk, StateT.run, bind, StateT.bind] at *
    rw [h]
    rfl

theorem exec_bind_ok {x : Action σ α} {a : α} {j j' : Journal σ} (h : x.exec j = (.ok a, j'))
    (f : α → Action σ β) : (x >>= f).exec j = (f a).exec j' := by
  rw [exec_bind, h]

theorem exec_bind_error {x : Action σ α} {e : Failure} {j j' : Journal σ}
    (h : x.exec j = (.error e, j')) (f : α → Action σ β) :
    (x >>= f).exec j = (.error e, j') := by
  rw [exec_bind, h]

/-- What every action of a list keeps, and succeeds with, all together do. -/
theorem exec_forM {P : Journal σ → Prop} {f : α → Action σ Unit} {as : List α}
    (h : ∀ a ∈ as, ∀ j, P j → ∃ j', (f a).exec j = (.ok (), j') ∧ P j') {j : Journal σ} (hj : P j) :
    ∃ j', (as.forM f).exec j = (.ok (), j') ∧ P j' := by
  induction as generalizing j with
  | nil => exact ⟨j, rfl, hj⟩
  | cons a as ih =>
    obtain ⟨ha, has⟩ := List.forall_mem_cons.1 h
    obtain ⟨j₁, hexec, hj₁⟩ := ha j hj
    obtain ⟨j', hrest, hj'⟩ := ih has hj₁
    exact ⟨j', (exec_bind_ok hexec _).trans hrest, hj'⟩

/-- An action on a list that goes from member to member fails where one member does, for a failure of the
kind that members fail for. -/
theorem exec_of_failing {F : Failure → Prop} {x : α → Action σ β} {γ : Type} {all : List α → Action σ γ}
    (hnext : ∀ a rest j b j₁ f j', (x a).exec j = (.ok b, j₁) → (all rest).exec j₁ = (.error f, j') →
      (all (a :: rest)).exec j = (.error f, j'))
    (hends : ∀ a rest j f j', (x a).exec j = (.error f, j') → (all (a :: rest)).exec j = (.error f, j'))
    {as : List α} (hall : ∀ a ∈ as, ∀ j, (∃ b j', (x a).exec j = (.ok b, j')) ∨
      ∃ f j', F f ∧ (x a).exec j = (.error f, j'))
    (hsome : ∃ a ∈ as, ∀ j, ∃ f j', F f ∧ (x a).exec j = (.error f, j')) (j : Journal σ) :
    ∃ f j', F f ∧ (all as).exec j = (.error f, j') := by
  induction as generalizing j with
  | nil => simp at hsome
  | cons a as ih =>
    rw [List.forall_mem_cons] at hall
    obtain ⟨b, j₁, hb⟩ | ⟨f, j₁, hf, hfails⟩ := hall.1 j
    · -- this member does not fail, so that a later one does
      have hlater : ∃ a ∈ as, ∀ j, ∃ f j', F f ∧ (x a).exec j = (.error f, j') := by
        obtain ⟨a', hmem, hfails⟩ := hsome
        rcases List.mem_cons.1 hmem with rfl | hmem
        · obtain ⟨f, j', -, hexec⟩ := hfails j
          cases hexec.symm.trans hb
        · exact ⟨a', hmem, hfails⟩
      obtain ⟨f, j', hf, hexec⟩ := ih hall.2 hlater j₁
      exact ⟨f, j', hf, hnext a as j b j₁ f j' hb hexec⟩
    · exact ⟨f, j₁, hf, hends a as j f j₁ hfails⟩

/-! ## Quiet actions -/

/-- From every journal, an action gives `r` and leaves the state as it was. -/
def Quiet (x : Action σ α) (r : Except Failure α) : Prop :=
  ∀ j, (x.exec j).1 = r ∧ (x.exec j).2.world = j.world

theorem Quiet.exec_eq {x : Action σ α} {r : Except Failure α} (h : x.Quiet r) (j : Journal σ) :
    ∃ j', x.exec j = (r, j') ∧ j'.world = j.world :=
  ⟨(x.exec j).2, Prod.ext (h j).1 rfl, (h j).2⟩

theorem quiet_pure (a : α) : Quiet (pure a : Action σ α) (.ok a) := fun _ => ⟨rfl, rfl⟩

theorem quiet_throw (f : Failure) : Quiet (throw f : Action σ α) (.error f) := fun _ => ⟨rfl, rfl⟩

theorem quiet_ofExcept (r : Except Failure α) : Quiet (ofExcept r : Action σ α) r :=
  fun _ => ⟨rfl, rfl⟩

theorem quiet_log (l : Level) (m : String) : Quiet (log l m : Action σ Unit) (.ok ()) :=
  fun _ => ⟨rfl, rfl⟩

theorem Quiet.attempt {x : Action σ α} {r : Except Failure α} (h : x.Quiet r) :
    (attempt x).Quiet (.ok r) := fun j => ⟨congrArg Except.ok (h j).1, (h j).2⟩

theorem Quiet.bind {x : Action σ α} {f : α → Action σ β} {r : Except Failure α}
    {s : α → Except Failure β} (hx : x.Quiet r) (hf : ∀ a, (f a).Quiet (s a)) :
    (x >>= f).Quiet (r >>= s) := by
  intro j
  obtain ⟨j', hj, hw⟩ := hx.exec_eq j
  cases r with
  | ok a =>
    rw [exec_bind_ok hj]
    exact ⟨(hf a j').1, (hf a j').2.trans hw⟩
  | error e =>
    rw [exec_bind_error hj]
    exact ⟨rfl, hw⟩

/-- After a quiet action that succeeds, the next one decides. -/
theorem Quiet.bind_ok {x : Action σ α} {f : α → Action σ β} {a : α} {s : Except Failure β}
    (hx : x.Quiet (.ok a)) (hf : (f a).Quiet s) : (x >>= f).Quiet s := by
  intro j
  obtain ⟨j', hj, hw⟩ := hx.exec_eq j
  rw [exec_bind_ok hj]
  exact ⟨(hf j').1, (hf j').2.trans hw⟩

theorem Quiet.bind_error {x : Action σ α} {f : α → Action σ β} {e : Failure} (hx : x.Quiet (.error e)) :
    (x >>= f).Quiet (.error e) := by
  intro j
  obtain ⟨j', hj, hw⟩ := hx.exec_eq j
  rw [exec_bind_error hj]
  exact ⟨rfl, hw⟩

theorem quiet_forM {f : α → Action σ Unit} (hf : ∀ a, (f a).Quiet (.ok ())) (xs : List α) :
    (xs.forM f).Quiet (.ok ()) := by
  induction xs with
  | nil => exact quiet_pure ()
  | cons a xs ih => exact (hf a).bind_ok ih

theorem quiet_logAll (rs : List LogRecord) : (logAll rs : Action σ Unit).Quiet (.ok ()) := by
  unfold logAll
  exact quiet_forM (fun r => quiet_log r.level r.message) rs

/-! ## Quiet beginnings -/

/-- From every journal, an action comes to `r` with the state as it was; where `r` is a result it goes
on with that, and else it ends there. -/
def Leads (x : Action σ β) (r : Except Failure α) (f : α → Action σ β) : Prop :=
  ∀ j, ∃ i, i.world = j.world ∧ x.exec j = match r with
    | .ok a => (f a).exec i
    | .error e => (.error e, i)

theorem leads_self (a : α) (f : α → Action σ β) : (f a).Leads (.ok a) f := fun j => ⟨j, rfl, rfl⟩

/-- A quiet action before one with a quiet beginning. -/
theorem Quiet.bind_leads {γ : Type} {x : Action σ α} {r : Except Failure α} {f : α → Action σ β}
    {s : α → Except Failure γ} {k : γ → Action σ β} (hx : x.Quiet r) (hf : ∀ a, (f a).Leads (s a) k) :
    (x >>= f).Leads (r >>= s) k := by
  intro j
  obtain ⟨j', hj, hw⟩ := hx.exec_eq j
  cases r with
  | ok a =>
    rw [exec_bind_ok hj]
    obtain ⟨i, hi, hexec⟩ := hf a j'
    exact ⟨i, hi.trans hw, hexec⟩
  | error e => exact ⟨j', hw, exec_bind_error hj _⟩

/-- What follows an action follows its end. -/
theorem Leads.bind {γ : Type} {x : Action σ β} {r : Except Failure α} {f : α → Action σ β}
    (h : x.Leads r f) (g : β → Action σ γ) : (x >>= g).Leads r (fun a => f a >>= g) := by
  intro j
  obtain ⟨i, hi, hexec⟩ := h j
  refine ⟨i, hi, ?_⟩
  cases r with
  | ok a => simp only [exec_bind, hexec]
  | error e => exact exec_bind_error hexec _

/-- A beginning may be noted in more detail. -/
theorem Leads.map {γ : Type} {x : Action σ β} {r : Except Failure α} {k : γ → Action σ β} {g : α → γ}
    (h : x.Leads r (fun a => k (g a))) : x.Leads (r >>= fun a => pure (g a)) k := by
  intro j
  obtain ⟨i, hi, hexec⟩ := h j
  exact ⟨i, hi, by cases r <;> exact hexec⟩

/-! ## Actions that do not fail -/

/-- An action that never fails. -/
def Succeeds (x : Action σ α) : Prop := ∀ j, ∃ a j', x.exec j = (.ok a, j')

/-- An action that never fails and leaves what a view shows of the state as it was. -/
def Keeps {τ : Type} (view : σ → τ) (x : Action σ α) : Prop :=
  ∀ j, ∃ a j', x.exec j = (.ok a, j') ∧ view j'.world = view j.world

theorem Succeeds.keeps {x : Action σ α} (h : x.Succeeds) : x.Keeps fun _ => () := fun j =>
  let ⟨a, j', hj⟩ := h j
  ⟨a, j', hj, rfl⟩

theorem Keeps.succeeds {τ : Type} {view : σ → τ} {x : Action σ α} (h : x.Keeps view) : x.Succeeds := fun j =>
  let ⟨a, j', hj, _⟩ := h j
  ⟨a, j', hj⟩

theorem Quiet.succeeds {x : Action σ α} {a : α} (h : x.Quiet (.ok a)) : x.Succeeds := fun j =>
  let ⟨j', hj, _⟩ := h.exec_eq j
  ⟨a, j', hj⟩

theorem Succeeds.bind {x : Action σ α} {f : α → Action σ β} (hx : x.Succeeds)
    (hf : ∀ a, (f a).Succeeds) : (x >>= f).Succeeds := by
  intro j
  obtain ⟨a, j₁, hj⟩ := hx j
  rw [exec_bind_ok hj]
  exact hf a j₁

theorem succeeds_forM {f : α → Action σ Unit} {xs : List α} (hf : ∀ a ∈ xs, (f a).Succeeds) :
    (xs.forM f).Succeeds := by
  induction xs with
  | nil => exact (quiet_pure ()).succeeds
  | cons a xs ih =>
    exact (hf a List.mem_cons_self).bind fun _ => ih fun b hb => hf b (List.mem_cons_of_mem _ hb)

end Action

end GateRollout
