import Mathlib.Data.List.Perm.Subperm
import GateRollout.Proofs.Mapping.Selection

/-!
# Plugins that exclude each other

Two plugins that require one module in two revisions exclude each other on every device that has each
module in one revision.  A device may have a module in several revisions, though, and then it supports
both; selection takes the preferred one, and says in a warning that there was a choice.
-/

namespace GateRollout

/-- A device has each of its modules in one revision. -/
def DeviceModel.IsSingle (model : DeviceModel) : Prop :=
  ∀ m ∈ model.modules, ∀ m' ∈ model.modules, m.name = m'.name → m.revision = m'.revision

namespace Plugin

variable {p q : Plugin} {model : DeviceModel}

/-- Two plugins require one module in two revisions. -/
def Excludes (p q : Plugin) : Prop :=
  ∃ m ∈ p.required, ∃ m' ∈ q.required, m.name = m'.name ∧ m.revision ≠ m'.revision

instance : DecidableRel Excludes := fun p q =>
  inferInstanceAs (Decidable (∃ m ∈ p.required, ∃ m' ∈ q.required, m.name = m'.name ∧ m.revision ≠ m'.revision))

theorem Excludes.not_fits (h : p.Excludes q) (hsingle : model.IsSingle) (hp : p.Fits model) :
    ¬q.Fits model := by
  obtain ⟨m, hm, m', hm', hname, hrevision⟩ := h
  exact fun hq => hrevision (hsingle m (hp m hm) m' (hq m' hm') hname)

/-- Plugins that share no required module exclude each other where they share the name of one. -/
theorem excludes_of_disjoint (hdisj : p.required.Disjoint q.required)
    (hname : ∃ m ∈ p.required, ∃ m' ∈ q.required, m.name = m'.name) : p.Excludes q := by
  obtain ⟨m, hm, m', hm', hname⟩ := hname
  refine ⟨m, hm, m', hm', hname, fun hrevision => hdisj hm ?_⟩
  have heq : m = m' := by
    cases m
    cases m'
    simp_all
  exact heq ▸ hm'

end Plugin

/-! ## Warnings of an action -/

namespace Action

variable {σ α β : Type}

/-- An action succeeds and does nothing but write records, with a warning among them just where `c`
is so. -/
def Warns (x : Action σ α) (a : α) (c : Prop) : Prop :=
  ∃ rs, (∀ j, x.exec j = (.ok a, { j with records := j.records ++ rs })) ∧
    ((∃ r ∈ rs, r.level = .warning) ↔ c)

theorem Warns.congr {x : Action σ α} {a : α} {c c' : Prop} (h : x.Warns a c) (hc : c ↔ c') :
    x.Warns a c' := by
  rwa [← hc]

theorem warns_pure (a : α) : (pure a : Action σ α).Warns a False :=
  ⟨[], fun j => by rw [exec_pure, List.append_nil], by simp⟩

theorem warns_ofExcept (a : α) : (ofExcept (.ok a) : Action σ α).Warns a False := warns_pure a

theorem warns_log (l : Level) (m : String) : (log l m : Action σ Unit).Warns () (l = .warning) :=
  ⟨[⟨l, m⟩], exec_log l m, by simp⟩

/-- There is a warning after two actions just where one of them wrote it. -/
theorem Warns.bind {x : Action σ α} {f : α → Action σ β} {a : α} {b : β} {c c' : Prop}
    (hx : x.Warns a c) (hf : (f a).Warns b c') : (x >>= f).Warns b (c ∨ c') := by
  obtain ⟨rs, hexec, hrs⟩ := hx
  obtain ⟨rs', hexec', hrs'⟩ := hf
  refine ⟨rs ++ rs', fun j => ?_, ?_⟩
  · rw [exec_bind_ok (hexec j), hexec', List.append_assoc]
  · simp only [List.mem_append, or_and_right, exists_or, hrs, hrs']

/-- Without a warning in the first of two actions, the second decides. -/
theorem Warns.after {x : Action σ α} {f : α → Action σ β} {a : α} {b : β} {c : Prop}
    (hx : x.Warns a False) (hf : (f a).Warns b c) : (x >>= f).Warns b c :=
  (hx.bind hf).congr (by rw [false_or])

theorem warns_forM {f : α → Action σ Unit} (h : ∀ a, (f a).Warns () False) (xs : List α) :
    (xs.forM f).Warns () False := by
  induction xs with
  | nil => exact warns_pure ()
  | cons x xs ih => exact (h x).after ih

end Action

namespace Plugin

variable {σ : Type}

/-- What a device lacks is not worth a warning. -/
theorem warns_supportedByDevice (p : Plugin) (model : DeviceModel) :
    (p.supportedByDevice model : Action σ Bool).Warns (p.isSupportedBy model) False := by
  rw [supportedByDevice, isSupportedBy]
  cases (p.missing model).isEmpty with
  | true => exact Action.warns_pure true
  | false => exact ((Action.warns_log .debug _).bind (Action.warns_pure false)).congr (by simp)

end Plugin

namespace Backend

variable {b : Backend} {feature : String} {plugins : List Plugin} {p q : Plugin}
  {model : DeviceModel} {σ : Type}

/-- A plugin is selected with a warning just where several plugins are ranked. -/
theorem warns_select (h : b.selected (.str feature) model = .ok p) :
    (b.select (.str feature) model : Action σ Plugin).Warns p
      (1 < (ranked model (b.pluginsOf feature)).length) := by
  have hplugins : b.pluginsFor (.str feature) = .ok (b.pluginsOf feature) := rfl
  have hlacking : ((b.pluginsOf feature).forM fun p => do
      let _ ← (p.supportedByDevice model : Action σ Bool)).Warns () False :=
    Action.warns_forM (fun p => (p.warns_supportedByDevice model).after (Action.warns_pure ())) _
  rw [select, hplugins, h]
  refine (Action.warns_ofExcept _).after (hlacking.after ((Action.warns_ofExcept p).after ?_))
  by_cases hmany : 1 < (ranked model (b.pluginsOf feature)).length
  · rw [if_pos hmany]
    exact ((Action.warns_log .warning _).bind (Action.warns_pure p)).congr (by simp [hmany])
  · rw [if_neg hmany]
    exact (Action.warns_pure p).congr (by simp [hmany])

/-- Where plugins exclude each other, a device with each module in one revision leaves no choice. -/
theorem ranked_length_le_one (h : plugins.Pairwise Plugin.Excludes) (hsingle : model.IsSingle) :
    (ranked model plugins).length ≤ 1 := by
  rw [ranked, List.length_mergeSort]
  have hexcl := h.filter (·.isSupportedBy model)
  have hfits : ∀ p ∈ plugins.filter (·.isSupportedBy model), p.Fits model := fun p hp =>
    Plugin.isSupportedBy_iff.1 (List.mem_filter.1 hp).2
  rcases hps : plugins.filter (·.isSupportedBy model) with _ | ⟨p, _ | ⟨q, rest⟩⟩
  · simp [hps]
  · simp [hps]
  · rw [hps] at hexcl hfits
    have hpq : p.Excludes q := List.rel_of_pairwise_cons hexcl List.mem_cons_self
    exact absurd (hfits q (by simp)) (hpq.not_fits hsingle (hfits p (by simp)))

/-- Two plugins of a feature that share no required module are both supported just where a device has
every module of both; where they name one module, no device that has each in one revision does.  They
compete in a selection on such devices alone: there it warns, and takes a plugin that precedes both. -/
theorem supported_together_iff (hp : p ∈ b.pluginsOf feature) (hq : q ∈ b.pluginsOf feature)
    (hne : p.required ≠ []) (hdisj : p.required.Disjoint q.required) (model : DeviceModel) :
    ((p.isSupportedBy model = true ∧ q.isSupportedBy model = true) ↔
      p.required ++ q.required ⊆ model.modules) ∧
    ((∃ m ∈ p.required, ∃ m' ∈ q.required, m.name = m'.name) → model.IsSingle →
      ¬(p.isSupportedBy model = true ∧ q.isSupportedBy model = true)) ∧
    (¬p.required ++ q.required ⊆ model.modules →
      ¬(p ∈ ranked model (b.pluginsOf feature) ∧ q ∈ ranked model (b.pluginsOf feature))) ∧
    (p.required ++ q.required ⊆ model.modules → ∃ chosen, chosen.Precedes p ∧ chosen.Precedes q ∧
      ∀ σ : Type, (b.select (.str feature) model : Action σ Plugin).Warns chosen True) := by
  have hboth : (p.Fits model ∧ q.Fits model) ↔ p.required ++ q.required ⊆ model.modules :=
    List.append_subset.symm
  simp only [Plugin.isSupportedBy_iff, mem_ranked]
  refine ⟨hboth, fun hname hsingle ⟨hpfits, hqfits⟩ => ?_, fun hsub hranked => ?_, fun hsub => ?_⟩
  · exact (Plugin.excludes_of_disjoint hdisj hname).not_fits hsingle hpfits hqfits
  · exact hsub (hboth.1 ⟨hranked.1.2, hranked.2.2⟩)
  · obtain ⟨hpfits, hqfits⟩ := hboth.2 hsub
    have hpq : p ≠ q := by
      rintro rfl
      exact hne (List.eq_nil_iff_forall_not_mem.2 fun m hm => hdisj hm hm)
    have hmem : [p, q] ⊆ ranked model (b.pluginsOf feature) := by
      simp [List.cons_subset, mem_ranked, hp, hq, hpfits, hqfits]
    have hmany : 2 ≤ (ranked model (b.pluginsOf feature)).length :=
      (List.Nodup.subperm (by simpa using hpq) hmem).length_le
    cases hr : ranked model (b.pluginsOf feature) with
    | nil => simp [hr] at hmany
    | cons chosen rest =>
      refine ⟨chosen, precedes_of_ranked_cons hr hp hpfits, precedes_of_ranked_cons hr hq hqfits,
        fun σ => (warns_select (selected_of_ranked_cons hr)).congr (iff_true_intro hmany)⟩

theorem disjoint_standard_legacy : Plugin.standard.required.Disjoint Plugin.legacy.required :=
  have h : ∀ m ∈ Plugin.standard.required, m ∉ Plugin.legacy.required := by decide
  fun m hm => h m hm

/-- A device with both revisions of the scheduler modules supports both plugins of this library. -/
theorem both_supported_with_both_revisions :
    ¬∀ (model : DeviceModel) (p q : Plugin), p.feature = q.feature → p.required ≠ [] → q.required ≠ [] →
      p.required.Disjoint q.required →
      ¬(p.isSupportedBy model = true ∧ q.isSupportedBy model = true) := by
  intro h
  exact h ⟨Plugin.standard.required ++ Plugin.legacy.required⟩ .standard .legacy rfl (by decide)
    (by decide) disjoint_standard_legacy (by decide)

/-- On such a device one of the plugins is selected with a warning. -/
theorem select_standard_or_legacy :
    Plugin.standard.required.Disjoint Plugin.legacy.required ∧
    ∃ chosen, chosen.Precedes .standard ∧ chosen.Precedes .legacy ∧
      ∀ σ : Type, (Backend.select ⟨"netconf", [(Schedule.feature, [.standard, .legacy])]⟩
        (.str Schedule.feature) ⟨Plugin.standard.required ++ Plugin.legacy.required⟩ :
          Action σ Plugin).Warns chosen True := by
  let b : Backend := ⟨"netconf", [(Schedule.feature, [.standard, .legacy])]⟩
  have hstandard : Plugin.standard ∈ b.pluginsOf Schedule.feature := by decide
  have hlegacy : Plugin.legacy ∈ b.pluginsOf Schedule.feature := by decide
  have h := supported_together_iff hstandard hlegacy (by decide) disjoint_standard_legacy
    ⟨Plugin.standard.required ++ Plugin.legacy.required⟩
  exact ⟨disjoint_standard_legacy, h.2.2.2 (by decide)⟩

end Backend

end GateRollout
