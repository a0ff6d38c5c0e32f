import GateRollout.Proofs.Journal
import GateRollout.Mapping.Backend
import Mathlib.Data.List.Pairwise
import Mathlib.Data.String.Basic

/-!
# Registering plugins

A backend holds some plugins when the plugins of every feature are those of the list that serve it, in
the order of the list.  A plugin is added unless one of its feature has its name, and then the backend
holds it after the others.
-/

namespace GateRollout

/-- Names that differ are in strict order once they are sorted. -/
theorem pairwise_lt_mergeSort {names : List String} (h : names.Nodup) :
    (names.mergeSort fun a b => !(b < a)).Pairwise (· < ·) := by
  have hsorted : (names.mergeSort fun a b => !(b < a)).Pairwise (· ≤ ·) := by
    refine (List.pairwise_mergeSort (fun a b c hab hbc => ?_) (fun a b => ?_) names).imp fun hab => ?_
    all_goals simp only [Bool.or_eq_true, Bool.not_eq_true', decide_eq_false_iff_not, not_lt] at *
    · exact hab.trans hbc
    · exact le_total a b
    · exact hab
  exact (hsorted.and ((List.mergeSort_perm _ _).nodup_iff.2 h)).imp fun ⟨hle, hne⟩ => lt_of_le_of_ne hle hne

/-- Two plugins that one backend may hold: of one feature, they have different names. -/
def Plugin.Apart (p q : Plugin) : Prop := p.feature = q.feature → p.name ≠ q.name

instance : DecidableRel Plugin.Apart := fun p q =>
  inferInstanceAs (Decidable (p.feature = q.feature → p.name ≠ q.name))

theorem Plugin.Apart.symm {p q : Plugin} (h : p.Apart q) : q.Apart p := fun hf => (h hf.symm).symm

namespace Backend

variable {b : Backend} {protocol : String} {held plugins : List Plugin} {p : Plugin}

/-- A backend for a protocol holds some plugins. -/
structure Holds (b : Backend) (protocol : String) (held : List Plugin) : Prop where
  protocol : b.protocol = protocol
  pluginsOf : ∀ feature, b.pluginsOf feature = held.filter (·.feature == feature)

theorem holds_empty (protocol : String) : (empty protocol).Holds protocol [] := ⟨rfl, fun _ => rfl⟩

theorem Holds.mem_pluginsOf (h : b.Holds protocol held) {feature : String} :
    p ∈ b.pluginsOf feature ↔ p ∈ held ∧ p.feature = feature := by
  rw [h.pluginsOf, List.mem_filter, beq_iff_eq]

/-- Of the features, only the plugin's gets another plugin. -/
theorem pluginsOf_insert {b' : Backend} (h : b.insert p = .ok b') (feature : String) :
    b'.pluginsOf feature = b.pluginsOf feature ++ if p.feature = feature then [p] else [] := by
  rw [insert] at h
  split at h
  · cases h
  split at h
  · -- the feature has plugins: its group is found under the same name as before
    rename_i hgroup
    cases h
    have hkey : ((fun group : String × List Plugin => group.1 == feature) ∘ fun (f, ps) =>
        if f == p.feature then (f, ps ++ [p]) else (f, ps)) = (·.1 == feature) := by
      funext ⟨f, ps⟩
      simp only [Function.comp_apply]
      split <;> rfl
    rw [pluginsOf, pluginsOf, List.find?_map, hkey]
    cases hfind : b.variants.find? (·.1 == feature) with
    | none =>
      have hne : p.feature ≠ feature := by
        rintro rfl
        obtain ⟨group, hmem, heq⟩ := List.any_eq_true.1 hgroup
        exact List.find?_eq_none.1 hfind group hmem heq
      simp [hne]
    | some group =>
      have hfound := List.find?_some hfind
      obtain rfl : group.1 = feature := beq_iff_eq.1 hfound
      by_cases hf : p.feature = group.1
      · simp [hf]
      · simp [hf, Ne.symm hf]
  · rename_i hgroup
    cases h
    rw [pluginsOf, pluginsOf, List.find?_append]
    cases hfind : b.variants.find? (·.1 == feature) with
    | none => by_cases hf : p.feature = feature <;> simp [hf]
    | some group =>
      have hne : p.feature ≠ feature := by
        rintro rfl
        have hfound := List.find?_some hfind
        exact hgroup (List.any_eq_true.2 ⟨group, List.mem_of_find?_eq_some hfind, hfound⟩)
      simp [hne]

theorem Holds.insert (h : b.Holds protocol held) (hname : ∀ q ∈ held, q.Apart p) :
    ∃ b', b.insert p = .ok b' ∧ b'.Holds protocol (held ++ [p]) := by
  have hfree : ((b.pluginsOf p.feature).any (·.name == p.name)) = false := by
    rw [List.any_eq_false]
    intro q hq
    obtain ⟨hq, hfeature⟩ := h.mem_pluginsOf.1 hq
    simpa using hname q hq hfeature
  obtain ⟨b', hb', hprotocol⟩ : ∃ b', b.insert p = .ok b' ∧ b'.protocol = b.protocol := by
    rw [Backend.insert, hfree, if_neg Bool.false_ne_true]
    split
    · exact ⟨_, rfl, rfl⟩
    · exact ⟨_, rfl, rfl⟩
  refine ⟨b', hb', hprotocol.trans h.protocol, fun feature => ?_⟩
  rw [pluginsOf_insert hb', h.pluginsOf, List.filter_append]
  congr 1
  by_cases hf : p.feature = feature <;> simp [hf]

variable {σ : Type}

theorem quiet_add (b : Backend) (p : Plugin) : (b.add p : Action σ Backend).Quiet (b.insert p) := by
  rw [add]
  cases b.insert p with
  | ok b' => exact (Action.quiet_ofExcept _).bind_ok ((Action.quiet_log _ _).bind_ok (Action.quiet_pure _))
  | error e => exact (Action.quiet_ofExcept _).bind_error

/-- Plugins of different names are added one after another. -/
theorem Holds.foldlM_add (h : b.Holds protocol held) (hnames : (held ++ plugins).Pairwise Plugin.Apart) :
    ∃ b', (plugins.foldlM add b : Action σ Backend).Quiet (.ok b') ∧ b'.Holds protocol (held ++ plugins) := by
  induction plugins generalizing b held with
  | nil => exact ⟨b, Action.quiet_pure b, by rwa [List.append_nil]⟩
  | cons p plugins ih =>
    have hbefore : ∀ q ∈ held, q.Apart p := fun q hq =>
      (List.pairwise_append.1 hnames).2.2 q hq p List.mem_cons_self
    obtain ⟨b', hb', hholds⟩ := h.insert hbefore
    rw [List.append_cons] at hnames ⊢
    obtain ⟨b'', hb'', hholds''⟩ := ih hholds hnames
    exact ⟨b'', (hb' ▸ b.quiet_add p).bind_ok hb'', hholds''⟩

theorem quiet_ofPlugins (protocol : String) (hnames : plugins.Pairwise Plugin.Apart) :
    ∃ b, (ofPlugins protocol plugins : Action σ Backend).Quiet (.ok b) ∧ b.Holds protocol plugins :=
  (holds_empty protocol).foldlM_add hnames

end Backend

end GateRollout
