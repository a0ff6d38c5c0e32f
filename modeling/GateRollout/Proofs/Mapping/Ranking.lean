import Mathlib.Data.List.Nodup
import Mathlib.Data.String.Basic
import GateRollout.Mapping.Backend

/-!
# The order of preference

The plugins that a device supports are ranked: the newer revision of the schema comes first, and of two
plugins at one revision the lesser name.  Names differ within a feature, so that this order is strict
there, and the first plugin in it does not depend on how the plugins were given.
-/

namespace GateRollout

namespace Plugin

/-! ## Required modules -/

/-- A device has every module that a plugin requires. -/
def Fits (p : Plugin) (model : DeviceModel) : Prop := ∀ m ∈ p.required, m ∈ model.modules

instance (p : Plugin) (model : DeviceModel) : Decidable (p.Fits model) :=
  inferInstanceAs (Decidable (∀ m ∈ p.required, m ∈ model.modules))

theorem isSupportedBy_iff {p : Plugin} {model : DeviceModel} :
    p.isSupportedBy model = true ↔ p.Fits model := by
  simp [isSupportedBy, missing, DeviceModel.has, Fits, List.filter_eq_nil_iff]

theorem Fits.mono {p : Plugin} {model model' : DeviceModel} (h : p.Fits model)
    (hsub : model.modules ⊆ model'.modules) : p.Fits model' := fun m hm => hsub (h m hm)

/-- A revision is the newest among the required modules: the greatest text, and the empty one where
nothing is required. -/
structure HasNewest (p : Plugin) (revision : String) : Prop where
  le : ∀ m ∈ p.required, m.revision ≤ revision
  mem : (∃ m ∈ p.required, m.revision = revision) ∨ p.required = [] ∧ revision = ""

theorem le_foldl_greater (texts : List String) (best : String) :
    best ≤ texts.foldl (fun best s => if best < s then s else best) best ∧
    (∀ s ∈ texts, s ≤ texts.foldl (fun best s => if best < s then s else best) best) ∧
    (texts.foldl (fun best s => if best < s then s else best) best = best ∨
      texts.foldl (fun best s => if best < s then s else best) best ∈ texts) := by
  induction texts generalizing best with
  | nil => simp
  | cons s texts ih =>
    rw [List.foldl_cons]
    by_cases h : best < s
    · rw [if_pos h]
      obtain ⟨hle, hall, hmem⟩ := ih s
      refine ⟨h.le.trans hle, List.forall_mem_cons.2 ⟨hle, hall⟩, .inr ?_⟩
      rcases hmem with hself | hmem
      · rw [hself]
        exact List.mem_cons_self
      · exact List.mem_cons_of_mem _ hmem
    · rw [if_neg h]
      obtain ⟨hle, hall, hmem⟩ := ih best
      refine ⟨hle, List.forall_mem_cons.2 ⟨(not_lt.1 h).trans hle, hall⟩, ?_⟩
      exact hmem.imp_right (List.mem_cons_of_mem _)

theorem empty_le (s : String) : "" ≤ s := by
  rw [String.le_iff_toList_le, String.toList_empty]
  exact not_lt.1 (List.not_lt_nil _)

theorem hasNewest_schemaRevision (p : Plugin) : p.HasNewest p.schemaRevision := by
  obtain ⟨-, hall, hmem⟩ := le_foldl_greater (p.required.map (·.revision)) ""
  change (∀ s ∈ _, s ≤ p.schemaRevision) at hall
  change p.schemaRevision = "" ∨ p.schemaRevision ∈ _ at hmem
  refine ⟨fun m hm => hall _ (List.mem_map_of_mem hm), ?_⟩
  rcases hmem with hempty | hmem
  · cases hreq : p.required with
    | nil => exact .inr ⟨rfl, hempty⟩
    | cons m rest =>
      have hm : m ∈ p.required := hreq ▸ List.mem_cons_self
      have hle : m.revision ≤ "" := hempty ▸ hall _ (List.mem_map_of_mem hm)
      exact .inl ⟨m, List.mem_cons_self, hempty ▸ le_antisymm hle (empty_le _)⟩
  · exact .inl (List.mem_map.1 hmem)

/-! ## Preference -/

/-- A plugin is at least as preferred as another: it has the newer revision, or the same and no greater
name. -/
def Precedes (p q : Plugin) : Prop :=
  q.schemaRevision < p.schemaRevision ∨ p.schemaRevision = q.schemaRevision ∧ p.name ≤ q.name

instance : DecidableRel Precedes := fun p q =>
  inferInstanceAs (Decidable (q.schemaRevision < p.schemaRevision ∨
    p.schemaRevision = q.schemaRevision ∧ p.name ≤ q.name))

theorem Precedes.refl (p : Plugin) : p.Precedes p := .inr ⟨rfl, le_rfl⟩

theorem Precedes.trans {p q r : Plugin} (h : p.Precedes q) (h' : q.Precedes r) : p.Precedes r := by
  rcases h with h | ⟨h, hname⟩ <;> rcases h' with h' | ⟨h', hname'⟩
  · exact .inl (h'.trans h)
  · exact .inl (h' ▸ h)
  · exact .inl (h ▸ h')
  · exact .inr ⟨h.trans h', hname.trans hname'⟩

theorem Precedes.total (p q : Plugin) : p.Precedes q ∨ q.Precedes p := by
  rcases lt_trichotomy p.schemaRevision q.schemaRevision with h | h | h
  · exact .inr (.inl h)
  · exact (le_total p.name q.name).imp (fun hname => .inr ⟨h, hname⟩) fun hname => .inr ⟨h.symm, hname⟩
  · exact .inl (.inl h)

/-- Two plugins that are as preferred as each other have one name. -/
theorem Precedes.name_eq {p q : Plugin} (h : p.Precedes q) (h' : q.Precedes p) : p.name = q.name := by
  rcases h with h | ⟨h, hname⟩ <;> rcases h' with h' | ⟨h', hname'⟩
  · exact absurd (h.trans h') (lt_irrefl _)
  · exact absurd (h' ▸ h) (lt_irrefl _)
  · exact absurd (h ▸ h') (lt_irrefl _)
  · exact le_antisymm hname hname'

end Plugin

namespace Backend

open Plugin

theorem prefers_iff {p q : Plugin} : prefers p q = true ↔ p.Precedes q := by
  simp only [prefers, Precedes, Bool.or_eq_true, Bool.and_eq_true, beq_iff_eq, Bool.not_eq_true',
    decide_eq_true_eq, decide_eq_false_iff_not, not_lt]

theorem prefers_trans (p q r : Plugin) (h : prefers p q = true) (h' : prefers q r = true) :
    prefers p r = true := by
  rw [prefers_iff] at *
  exact h.trans h'

theorem prefers_total (p q : Plugin) : (prefers p q || prefers q p) = true := by
  rw [Bool.or_eq_true, prefers_iff, prefers_iff]
  exact Precedes.total p q

/-! ## Ranks -/

variable {model : DeviceModel} {plugins : List Plugin} {p q : Plugin}

theorem mem_ranked : p ∈ ranked model plugins ↔ p ∈ plugins ∧ p.Fits model := by
  rw [ranked, List.mem_mergeSort, List.mem_filter, isSupportedBy_iff]

theorem pairwise_ranked (model : DeviceModel) (plugins : List Plugin) :
    (ranked model plugins).Pairwise Precedes :=
  (List.pairwise_mergeSort prefers_trans prefers_total _).imp prefers_iff.1

/-- Whatever is ranked comes after the first. -/
theorem precedes_of_ranked_cons {rest : List Plugin} (h : ranked model plugins = p :: rest)
    (hq : q ∈ plugins) (hfits : q.Fits model) : p.Precedes q := by
  have hmem : q ∈ p :: rest := h ▸ mem_ranked.2 ⟨hq, hfits⟩
  have hsorted : (p :: rest).Pairwise Precedes := h ▸ pairwise_ranked model plugins
  rcases List.mem_cons.1 hmem with rfl | hmem
  · exact .refl q
  · exact List.rel_of_pairwise_cons hsorted hmem

/-- The order by name. -/
def namedBefore (p q : Plugin) : Bool := !(q.name < p.name)

/-- The order by revision, the newest first. -/
def newerBefore (p q : Plugin) : Bool := !(p.schemaRevision < q.schemaRevision)

theorem namedBefore_iff : namedBefore p q = true ↔ p.name ≤ q.name := by
  rw [namedBefore, Bool.not_eq_true', decide_eq_false_iff_not, not_lt]

theorem newerBefore_iff : newerBefore p q = true ↔ q.schemaRevision ≤ p.schemaRevision := by
  rw [newerBefore, Bool.not_eq_true', decide_eq_false_iff_not, not_lt]

theorem namedBefore_trans (p q r : Plugin) (h : namedBefore p q = true) (h' : namedBefore q r = true) :
    namedBefore p r = true :=
  namedBefore_iff.2 ((namedBefore_iff.1 h).trans (namedBefore_iff.1 h'))

theorem namedBefore_total (p q : Plugin) : (namedBefore p q || namedBefore q p) = true := by
  rw [Bool.or_eq_true, namedBefore_iff, namedBefore_iff]
  exact le_total p.name q.name

theorem newerBefore_trans (p q r : Plugin) (h : newerBefore p q = true) (h' : newerBefore q r = true) :
    newerBefore p r = true :=
  newerBefore_iff.2 ((newerBefore_iff.1 h').trans (newerBefore_iff.1 h))

theorem newerBefore_total (p q : Plugin) : (newerBefore p q || newerBefore q p) = true := by
  rw [Bool.or_eq_true, newerBefore_iff, newerBefore_iff]
  exact le_total q.schemaRevision p.schemaRevision

/-- Sorting by revision keeps the plugins of one revision as they are. -/
theorem filter_mergeSort_newerBefore (xs : List Plugin) (revision : String) :
    (xs.mergeSort newerBefore).filter (·.schemaRevision == revision) =
      xs.filter (·.schemaRevision == revision) := by
  have hone : (xs.filter (·.schemaRevision == revision)).Pairwise (newerBefore · ·) := by
    refine List.pairwise_of_forall_mem_list fun p hp q hq => newerBefore_iff.2 (le_of_eq ?_)
    rw [beq_iff_eq.1 (List.mem_filter.1 hp).2, beq_iff_eq.1 (List.mem_filter.1 hq).2]
  have hsub : (xs.filter (·.schemaRevision == revision)).Sublist
      ((xs.mergeSort newerBefore).filter (·.schemaRevision == revision)) := by
    simpa only [List.filter_filter, Bool.and_self] using
      (List.sublist_mergeSort newerBefore_trans newerBefore_total hone List.filter_sublist).filter
        (·.schemaRevision == revision)
  exact (hsub.eq_of_length ((List.mergeSort_perm xs newerBefore).filter _).length_eq.symm).symm

theorem pairwise_sorted_twice (xs : List Plugin) :
    ((xs.mergeSort namedBefore).mergeSort newerBefore).Pairwise Precedes := by
  rw [List.pairwise_iff_forall_sublist]
  intro p q hsub
  have hnewer : newerBefore p q = true := List.pairwise_iff_forall_sublist.1
    (List.pairwise_mergeSort newerBefore_trans newerBefore_total (xs.mergeSort namedBefore)) hsub
  rcases (newerBefore_iff.1 hnewer).lt_or_eq with hlt | heq
  · exact .inl hlt
  · -- within one revision the order of names is that of the first sorting
    have hboth : [p, q].Sublist ((xs.mergeSort namedBefore).filter (·.schemaRevision == p.schemaRevision)) := by
      rw [← filter_mergeSort_newerBefore]
      simpa [heq] using hsub.filter (·.schemaRevision == p.schemaRevision)
    have hnamed : namedBefore p q = true := List.pairwise_iff_forall_sublist.1
      (List.pairwise_mergeSort namedBefore_trans namedBefore_total xs) (hboth.trans List.filter_sublist)
    exact .inr ⟨heq.symm, namedBefore_iff.1 hnamed⟩

/-- Ranking is sorting by name and then by revision. -/
theorem ranked_eq_sorted_twice (h : (plugins.map Plugin.name).Nodup) :
    ranked model plugins =
      ((plugins.filter (·.isSupportedBy model)).mergeSort namedBefore).mergeSort newerBefore := by
  have hnames : ((plugins.filter (·.isSupportedBy model)).map Plugin.name).Nodup :=
    h.sublist (List.filter_sublist.map _)
  have hperm : ((plugins.filter (·.isSupportedBy model)).mergeSort namedBefore).mergeSort newerBefore
      |>.Perm (plugins.filter (·.isSupportedBy model)) :=
    (List.mergeSort_perm _ _).trans (List.mergeSort_perm _ _)
  have hanti : ∀ p q, p ∈ ranked model plugins →
      q ∈ ((plugins.filter (·.isSupportedBy model)).mergeSort namedBefore).mergeSort newerBefore →
      p.Precedes q → q.Precedes p → p = q := fun p q hp hq hpq hqp =>
    List.inj_on_of_nodup_map hnames (List.mem_mergeSort.1 hp) (hperm.mem_iff.1 hq) (hpq.name_eq hqp)
  exact List.Perm.eq_of_pairwise hanti (pairwise_ranked model plugins) (pairwise_sorted_twice _)
    ((List.mergeSort_perm _ _).trans hperm.symm)

end Backend

end GateRollout
