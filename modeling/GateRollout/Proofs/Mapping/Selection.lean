import GateRollout.Proofs.Mapping.Ranking
import GateRollout.Proofs.Mapping.Registration
import GateRollout.Proofs.Mapping.Rendering
import GateRollout.Proofs.Mapping.Variants

/-!
# The plugin that is selected

What a backend selects depends on the plugins that it holds and not on the order in which they came:
of those of the feature that fit the device, the one that precedes all others.  With more modules
installed another plugin may be selected, but none that is less preferred.
-/

namespace GateRollout

namespace Backend

variable {b b' : Backend} {protocol feature : String} {held plugins plugins' : List Plugin} {p : Plugin}
  {model model' : DeviceModel}

/-- Of some plugins, the one that serves a feature on a device before all others. -/
structure Serves (plugins : List Plugin) (feature : String) (model : DeviceModel) (p : Plugin) :
    Prop where
  mem : p ∈ plugins
  feature_eq : p.feature = feature
  fits : p.Fits model
  precedes : ∀ q ∈ plugins, q.feature = feature → q.Fits model → p.Precedes q

/-! ## Plugins with different names -/

theorem nodup_names (h : plugins.Pairwise Plugin.Apart) (feature : String) :
    ((plugins.filter (·.feature == feature)).map Plugin.name).Nodup := by
  refine List.pairwise_map.2 ((h.filter _).imp_of_mem fun {p q} hp hq hapart => hapart ?_)
  rw [beq_iff_eq.1 (List.mem_filter.1 hp).2, beq_iff_eq.1 (List.mem_filter.1 hq).2]

/-- Plugins of different names are ranked in the same way in whatever order they are given. -/
theorem ranked_perm (hnames : (plugins.map Plugin.name).Nodup) (h : plugins.Perm plugins')
    (model : DeviceModel) : ranked model plugins = ranked model plugins' := by
  have hperm : (ranked model plugins).Perm (ranked model plugins') :=
    ((List.mergeSort_perm _ _).trans (h.filter _)).trans (List.mergeSort_perm _ _).symm
  refine hperm.eq_of_pairwise (fun p q hp hq hpq hqp => ?_) (pairwise_ranked model plugins)
    (pairwise_ranked model plugins')
  exact List.inj_on_of_nodup_map hnames (mem_ranked.1 hp).1 (mem_ranked.1 (hperm.mem_iff.2 hq)).1
    (hpq.name_eq hqp)

/-! ## What a backend selects -/

theorem Holds.selected_perm (h : b.Holds protocol plugins) (h' : b'.Holds protocol plugins')
    (hperm : plugins.Perm plugins') (hnames : plugins.Pairwise Plugin.Apart) :
    b.selected (.str feature) model = b'.selected (.str feature) model := by
  have hranked : ranked model (b.pluginsOf feature) = ranked model (b'.pluginsOf feature) := by
    rw [h.pluginsOf, h'.pluginsOf]
    exact ranked_perm (nodup_names hnames feature) (hperm.filter _) model
  have hunsupported : b.unsupported (.str feature) = b'.unsupported (.str feature) := by
    rw [unsupported, unsupported, h.protocol, h'.protocol]
  cases hr : ranked model (b.pluginsOf feature) with
  | nil => rw [selected_of_ranked_nil hr, selected_of_ranked_nil (hranked ▸ hr), hunsupported]
  | cons p rest => rw [selected_of_ranked_cons hr, selected_of_ranked_cons (hranked ▸ hr)]

/-- There is no plugin for a feature just where none of the feature fits the device. -/
theorem Holds.selected_eq_unsupported_iff (h : b.Holds protocol plugins) :
    b.selected (.str feature) model = .error (b.unsupported (.str feature)) ↔
      ∀ p ∈ plugins, p.feature = feature → ¬p.Fits model := by
  cases hr : ranked model (b.pluginsOf feature) with
  | nil =>
    refine iff_of_true (selected_of_ranked_nil hr) fun p hp hf hfits => ?_
    exact List.not_mem_nil (hr ▸ mem_ranked.2 ⟨h.mem_pluginsOf.2 ⟨hp, hf⟩, hfits⟩)
  | cons p rest =>
    obtain ⟨hp, hfits⟩ := mem_ranked.1 (hr ▸ List.mem_cons_self : p ∈ ranked model (b.pluginsOf feature))
    obtain ⟨hp, hf⟩ := h.mem_pluginsOf.1 hp
    rw [selected_of_ranked_cons hr]
    exact iff_of_false nofun fun hnone => hnone p hp hf hfits

theorem Holds.serves_of_ranked_cons (h : b.Holds protocol plugins) {rest : List Plugin}
    (hr : ranked model (b.pluginsOf feature) = p :: rest) : Serves plugins feature model p := by
  obtain ⟨hp, hfits⟩ := mem_ranked.1 (hr ▸ List.mem_cons_self : p ∈ ranked model (b.pluginsOf feature))
  obtain ⟨hp, hf⟩ := h.mem_pluginsOf.1 hp
  exact ⟨hp, hf, hfits, fun q hq hqf => precedes_of_ranked_cons hr (h.mem_pluginsOf.2 ⟨hq, hqf⟩)⟩

/-- Of plugins with different names, no two serve a feature before all others. -/
theorem Serves.eq {q : Plugin} (h : Serves plugins feature model p) (h' : Serves plugins feature model q)
    (hnames : plugins.Pairwise Plugin.Apart) : p = q := by
  have hname : p.name = q.name :=
    (h.precedes q h'.mem h'.feature_eq h'.fits).name_eq (h'.precedes p h.mem h.feature_eq h.fits)
  refine List.inj_on_of_nodup_map (nodup_names hnames feature) ?_ ?_ hname
  · exact List.mem_filter.2 ⟨h.mem, beq_iff_eq.2 h.feature_eq⟩
  · exact List.mem_filter.2 ⟨h'.mem, beq_iff_eq.2 h'.feature_eq⟩

/-- The selected plugin is the one that serves the feature before all others. -/
theorem Holds.selected_eq_ok_iff (h : b.Holds protocol plugins) (hnames : plugins.Pairwise Plugin.Apart) :
    b.selected (.str feature) model = .ok p ↔ Serves plugins feature model p := by
  cases hr : ranked model (b.pluginsOf feature) with
  | nil =>
    rw [selected_of_ranked_nil hr]
    refine iff_of_false nofun fun hp => ?_
    exact List.not_mem_nil (hr ▸ mem_ranked.2 ⟨h.mem_pluginsOf.2 ⟨hp.mem, hp.feature_eq⟩, hp.fits⟩)
  | cons q rest =>
    have hq : Serves plugins feature model q := h.serves_of_ranked_cons hr
    rw [selected_of_ranked_cons hr]
    exact ⟨fun hqp => Except.ok.inj hqp ▸ hq, fun hp => congrArg Except.ok (hq.eq hp hnames)⟩

/-! ## Selecting -/

/-- A choice of plugins for a feature, device by device: the plugin that serves the feature before all
others, a stated error where none fits the device, and none less preferred where more is installed. -/
structure IsOptimal (plugins : List Plugin) (feature : String)
    (chosen : DeviceModel → Except Failure Plugin) : Prop where
  cases : ∀ model, (∃ p, chosen model = .ok p) ∨
    ∃ e, chosen model = .error (.error e) ∧ e.kind = .unsupportedFeature
  error_iff : ∀ model, (∃ e, chosen model = .error e) ↔
    ∀ p ∈ plugins, p.feature = feature → ¬p.Fits model
  ok_iff : ∀ model p, chosen model = .ok p ↔ Serves plugins feature model p
  mono : ∀ model model', model.modules ⊆ model'.modules → ∀ p, chosen model = .ok p →
    ∃ p', chosen model' = .ok p' ∧ p'.Precedes p

theorem Holds.isOptimal (h : b.Holds protocol plugins) (hnames : plugins.Pairwise Plugin.Apart)
    (feature : String) : IsOptimal plugins feature fun model => b.selected (.str feature) model := by
  have hcases : ∀ model, (∃ p, b.selected (.str feature) model = .ok p) ∨
      b.selected (.str feature) model = .error (b.unsupported (.str feature)) := by
    intro model
    cases hr : ranked model (b.pluginsOf feature) with
    | nil => exact .inr (selected_of_ranked_nil hr)
    | cons p rest => exact .inl ⟨p, selected_of_ranked_cons hr⟩
  have hok : ∀ model p, b.selected (.str feature) model = .ok p ↔ Serves plugins feature model p :=
    fun model p => h.selected_eq_ok_iff hnames
  refine ⟨fun model => (hcases model).imp_right fun he => ⟨_, he, rfl⟩, fun model => ?_, hok, ?_⟩
  · rw [← h.selected_eq_unsupported_iff]
    refine ⟨fun ⟨e, he⟩ => (hcases model).resolve_left ?_, fun he => ⟨_, he⟩⟩
    rintro ⟨p, hp⟩
    exact nomatch he.symm.trans hp
  · intro model model' hsub p hp
    -- the plugin of the smaller model fits the larger one too, so that something is chosen there
    have hserves : Serves plugins feature model p := (hok model p).1 hp
    have hfits : p.Fits model' := hserves.fits.mono hsub
    rcases hcases model' with ⟨p', hp'⟩ | he
    · exact ⟨p', hp', ((hok model' p').1 hp').precedes p hserves.mem hserves.feature_eq hfits⟩
    · exact absurd hfits (h.selected_eq_unsupported_iff.1 he p hserves.mem hserves.feature_eq)

/-- Selection is one optimal choice, whatever the order in which the plugins were registered. -/
theorem select_optimal (protocol feature : String) (hnames : plugins.Pairwise Plugin.Apart) :
    ∃ chosen, IsOptimal plugins feature chosen ∧
      (∀ p ∈ plugins, p.HasNewest p.schemaRevision) ∧
      ∀ given, given.Perm plugins → ∀ (σ : Type) (j : Journal σ), ∃ b j',
        (ofPlugins protocol given).exec j = (.ok b, j') ∧
        ∀ model (i : Journal σ), ((b.select (.str feature) model).exec i).1 = chosen model := by
  obtain ⟨b, -, hb⟩ := quiet_ofPlugins (σ := Unit) protocol hnames
  refine ⟨fun model => b.selected (.str feature) model, hb.isOptimal hnames feature,
    fun p _ => p.hasNewest_schemaRevision, fun given hperm σ j => ?_⟩
  have hgiven : given.Pairwise Plugin.Apart := hperm.symm.pairwise hnames Plugin.Apart.symm
  obtain ⟨b', hquiet, hb'⟩ := quiet_ofPlugins (σ := σ) protocol hgiven
  obtain ⟨j', hj, -⟩ := hquiet.exec_eq j
  refine ⟨b', j', hj, fun model i => ?_⟩
  rw [(b'.quiet_select (.str feature) model i).1]
  exact hb'.selected_perm hb hperm hgiven

/-- On a device with both revisions the newer is served, whichever plugin was registered first. -/
theorem select_standard_of_both :
    [Plugin.standard, Plugin.legacy].Pairwise Plugin.Apart ∧
    ∃ chosen, IsOptimal [Plugin.standard, Plugin.legacy] Schedule.feature chosen ∧
      chosen ⟨Plugin.legacy.required ++ Plugin.standard.required⟩ = .ok Plugin.standard ∧
      ∀ given, given.Perm [Plugin.standard, Plugin.legacy] → ∀ (σ : Type) (j : Journal σ), ∃ b j',
        (ofPlugins "netconf" given).exec j = (.ok b, j') ∧
        ∀ model (i : Journal σ), ((b.select (.str Schedule.feature) model).exec i).1 = chosen model := by
  have hapart : [Plugin.standard, Plugin.legacy].Pairwise Plugin.Apart := by decide
  obtain ⟨chosen, hopt, -, hselect⟩ := select_optimal "netconf" Schedule.feature hapart
  refine ⟨hapart, chosen, hopt, (hopt.ok_iff _ _).2 ⟨by decide, rfl, by decide, ?_⟩, hselect⟩
  decide

end Backend

end GateRollout
