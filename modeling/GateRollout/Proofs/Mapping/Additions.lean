import GateRollout.Proofs.Mapping.Selection

/-!
# Adding plugins one by one

A backend keeps its plugins in place: the group of a plugin's feature is made before the name of the plugin is
looked for in it.  A plugin that is refused leaves the groups as they were all the same, for a name is only
found in a group that is there.  So no group is ever empty, and after any additions the backend holds those
plugins that were not refused, in their order and under different names.
-/

namespace GateRollout.Backend

variable {b b' : Backend} {protocol feature : String} {held : List Plugin} {p q : Plugin}

/-! ## One addition -/

/-- A backend with a group for a feature, an empty one where there was none. -/
def withGroup (b : Backend) (feature : String) : Backend :=
  if b.variants.any (·.1 == feature) then b
  else { b with variants := b.variants ++ [(feature, [])] }

/-- A backend with a plugin behind the others in its group. -/
def withLast (b : Backend) (p : Plugin) : Backend :=
  { b with variants := b.variants.map fun (f, ps) => if f == p.feature then (f, ps ++ [p]) else (f, ps) }

/-- A plugin is added in steps: its group is made, its name is looked for there, and only then is it put
behind the others.  What comes of it, and the backend that is left. -/
def addInPlace (b : Backend) (p : Plugin) : Except Failure Unit × Backend :=
  let b := b.withGroup p.feature
  if (b.pluginsOf p.feature).any (·.name == p.name) then (.error (alreadyRegistered p), b)
  else (.ok (), b.withLast p)

theorem find?_of_no_group (h : ¬b.variants.any (·.1 == feature) = true) :
    b.variants.find? (·.1 == feature) = none :=
  List.find?_eq_none.2 fun group hmem hfeature => h (List.any_eq_true.2 ⟨group, hmem, hfeature⟩)

theorem pluginsOf_of_no_group (h : ¬b.variants.any (·.1 == feature) = true) : b.pluginsOf feature = [] := by
  rw [pluginsOf, find?_of_no_group h]
  rfl

theorem pluginsOf_withGroup (b : Backend) (feature : String) :
    (b.withGroup feature).pluginsOf feature = b.pluginsOf feature := by
  rw [withGroup]
  split
  · rfl
  · case isFalse hgroup =>
    rw [pluginsOf_of_no_group hgroup, pluginsOf, List.find?_append, find?_of_no_group hgroup]
    simp

/-- Only a group that is new is changed by making it, and there no name is found. -/
theorem addInPlace_eq (b : Backend) (p : Plugin) :
    b.addInPlace p = match b.insert p with
      | .ok b' => (.ok (), b')
      | .error f => (.error f, b) := by
  rw [addInPlace, insert, pluginsOf_withGroup]
  by_cases hgroup : b.variants.any (·.1 == p.feature) = true
  · rw [withGroup, if_pos hgroup, if_pos hgroup]
    split <;> rfl
  · have hothers : ∀ group ∈ b.variants,
        (if group.1 == p.feature then (group.1, group.2 ++ [p]) else group) = group := by
      intro group hmem
      refine if_neg fun hfeature => hgroup (List.any_eq_true.2 ⟨group, hmem, hfeature⟩)
    have hlast : (b.withGroup p.feature).withLast p = { b with variants := b.variants ++ [(p.feature, [p])] } := by
      rw [withGroup, if_neg hgroup, withLast, List.map_append, List.map_congr_left hothers, List.map_id']
      simp
    rw [pluginsOf_of_no_group hgroup, hlast, if_neg hgroup]
    rfl

theorem insert_eq_error_iff {f : Failure} :
    b.insert p = .error f ↔ f = alreadyRegistered p ∧ ∃ q ∈ b.pluginsOf p.feature, q.name = p.name := by
  rw [insert]
  split
  · case isTrue htaken =>
    have hsome : ∃ q ∈ b.pluginsOf p.feature, q.name = p.name := by simpa using htaken
    exact ⟨fun h => ⟨(Except.error.inj h).symm, hsome⟩, fun h => congrArg Except.error h.1.symm⟩
  · case isFalse hfree =>
    have hnone : ¬∃ q ∈ b.pluginsOf p.feature, q.name = p.name := by simpa using hfree
    simp only [hnone, and_false, iff_false]
    split <;> simp

/-- The features that have a group: that of the plugin is new where it had none. -/
theorem groups_insert (h : b.insert p = .ok b') :
    b'.variants.map Prod.fst =
      if p.feature ∈ b.variants.map Prod.fst then b.variants.map Prod.fst
      else b.variants.map Prod.fst ++ [p.feature] := by
  have hmem : b.variants.any (·.1 == p.feature) = true ↔ p.feature ∈ b.variants.map Prod.fst := by
    simp
  rw [insert] at h
  split at h
  · cases h
  split at h
  · case isTrue hgroup =>
    obtain rfl := Except.ok.inj h
    rw [if_pos (hmem.1 hgroup), List.map_map]
    refine List.map_congr_left fun group _ => ?_
    simp only [Function.comp_apply]
    split <;> rfl
  · case isFalse hgroup =>
    obtain rfl := Except.ok.inj h
    rw [if_neg fun hin => hgroup (hmem.2 hin), List.map_append]
    rfl

/-! ## Many additions -/

/-- A backend in the course of additions, and the plugins that were added so far. -/
structure Stage where
  backend : Backend
  added : List Plugin

namespace Stage

/-- What the next addition leads to. -/
def next (s : Stage) (p : Plugin) : Stage :=
  match s.backend.addInPlace p with
  | (.ok (), b) => ⟨b, s.added ++ [p]⟩
  | (.error _, b) => ⟨b, s.added⟩

/-- Where some additions to a fresh backend lead, in their order. -/
def after (protocol : String) (plugins : List Plugin) : Stage := plugins.foldl next ⟨empty protocol, []⟩

/-- The backend holds what was added, under different names within a feature; the features with a group are
those of the plugins, each with one group. -/
structure IsConsistent (s : Stage) (protocol : String) : Prop where
  holds : s.backend.Holds protocol s.added
  apart : s.added.Pairwise Plugin.Apart
  nodup : (s.backend.variants.map Prod.fst).Nodup
  mem_groups : ∀ feature, feature ∈ s.backend.variants.map Prod.fst ↔ ∃ p ∈ s.added, p.feature = feature

variable {s : Stage}

/-- A plugin is refused where one of its feature has its name, and this leaves everything as it was. -/
theorem IsConsistent.addInPlace_of_taken (h : s.IsConsistent protocol)
    (htaken : ∃ q ∈ s.added, q.feature = p.feature ∧ q.name = p.name) :
    s.backend.addInPlace p = (.error (alreadyRegistered p), s.backend) := by
  obtain ⟨q, hq, hfeature, hname⟩ := htaken
  have hrefused : s.backend.insert p = .error (alreadyRegistered p) :=
    insert_eq_error_iff.2 ⟨rfl, q, h.holds.mem_pluginsOf.2 ⟨hq, hfeature⟩, hname⟩
  rw [addInPlace_eq, hrefused]

/-- Any other plugin is added, and everything stays consistent. -/
theorem IsConsistent.addInPlace_of_free (h : s.IsConsistent protocol)
    (hfree : ¬∃ q ∈ s.added, q.feature = p.feature ∧ q.name = p.name) :
    ∃ b, s.backend.addInPlace p = (.ok (), b) ∧ (⟨b, s.added ++ [p]⟩ : Stage).IsConsistent protocol := by
  have hnames : ∀ q ∈ s.added, q.Apart p := fun q hq hfeature hname => hfree ⟨q, hq, hfeature, hname⟩
  obtain ⟨b, hb, hholds⟩ := h.holds.insert hnames
  have hgroups := groups_insert hb
  refine ⟨b, by rw [addInPlace_eq, hb], hholds, ?_, ?_, fun feature => ?_⟩
  · refine List.pairwise_append.2 ⟨h.apart, List.pairwise_singleton _ _, fun q hq r hr => ?_⟩
    obtain rfl := List.mem_singleton.1 hr
    exact hnames q hq
  · rw [hgroups]
    split
    · exact h.nodup
    · case isFalse hnew =>
      rw [List.nodup_append]
      refine ⟨h.nodup, List.pairwise_singleton _ _, fun name hname other hother => ?_⟩
      obtain rfl := List.mem_singleton.1 hother
      exact fun heq => hnew (heq ▸ hname)
  · have hin : feature ∈ b.variants.map Prod.fst ↔
        feature ∈ s.backend.variants.map Prod.fst ∨ p.feature = feature := by
      rw [hgroups]
      split
      · case isTrue hold => exact ⟨.inl, fun h => h.elim id fun heq => heq ▸ hold⟩
      · rw [List.mem_append, List.mem_singleton, @eq_comm _ feature]
    rw [hin, h.mem_groups]
    simp only [List.mem_append, List.mem_singleton, or_and_right, exists_or, exists_eq_left]

/-- One addition keeps everything consistent. -/
theorem IsConsistent.next (h : s.IsConsistent protocol) (p : Plugin) : (s.next p).IsConsistent protocol := by
  by_cases htaken : ∃ q ∈ s.added, q.feature = p.feature ∧ q.name = p.name
  · rw [Stage.next, h.addInPlace_of_taken htaken]
    exact h
  · obtain ⟨b, hb, hconsistent⟩ := h.addInPlace_of_free htaken
    rw [Stage.next, hb]
    exact hconsistent

/-- So do any additions. -/
theorem isConsistent_after (protocol : String) (plugins : List Plugin) :
    (after protocol plugins).IsConsistent protocol := by
  have hfrom : ∀ s : Stage, s.IsConsistent protocol → (plugins.foldl Stage.next s).IsConsistent protocol := by
    induction plugins with
    | nil => exact fun s hs => hs
    | cons p plugins ih => exact fun s hs => ih _ (hs.next p)
  exact hfrom _ ⟨holds_empty protocol, .nil, .nil, by simp [empty]⟩

end Stage

/-- What runs is an addition in place. -/
theorem quiet_add_inPlace {σ : Type} (b : Backend) (p : Plugin) :
    (b.add p : Action σ Backend).Quiet ((b.addInPlace p).1.map fun _ => (b.addInPlace p).2) := by
  have h := b.quiet_add (σ := σ) p
  rw [addInPlace_eq]
  cases hinsert : b.insert p <;> rwa [hinsert] at h

/-- After any additions, also of plugins that are refused, the plugins of a feature are those that were added,
in their order and under different names, and the features are those of at least one of them, in order.  The
next plugin is refused exactly where one of its feature has its name, and then all groups are what they
were. -/
theorem additions_keep_table (protocol : String) (plugins : List Plugin) :
    let s := Stage.after protocol plugins
    (∀ feature, s.backend.pluginsFor (.str feature) = .ok (s.added.filter (·.feature == feature)) ∧
      ((s.added.filter (·.feature == feature)).map Plugin.name).Nodup) ∧
    s.backend.features.Pairwise (· < ·) ∧
    (∀ feature, feature ∈ s.backend.features ↔ ∃ p ∈ s.added, p.feature = feature) ∧
    ∀ p,
      (∀ σ : Type, (s.backend.add p : Action σ Backend).Quiet
        ((s.backend.addInPlace p).1.map fun _ => (s.backend.addInPlace p).2)) ∧
      ((∃ q ∈ s.added, q.feature = p.feature ∧ q.name = p.name) →
        s.backend.addInPlace p = (.error (alreadyRegistered p), s.backend)) ∧
      ((¬∃ q ∈ s.added, q.feature = p.feature ∧ q.name = p.name) →
        (s.backend.addInPlace p).1 = .ok () ∧
          (Stage.after protocol (plugins ++ [p])).added = s.added ++ [p]) := by
  intro s
  have h := Stage.isConsistent_after protocol plugins
  refine ⟨fun feature => ⟨congrArg Except.ok (h.holds.pluginsOf feature), nodup_names h.apart feature⟩,
    pairwise_lt_mergeSort h.nodup, fun feature => ?_, fun p => ⟨fun σ => quiet_add_inPlace s.backend p,
      fun htaken => h.addInPlace_of_taken htaken, fun hfree => ?_⟩⟩
  · rw [features, List.mem_mergeSort, h.mem_groups]
  · obtain ⟨b, hb, -⟩ := h.addInPlace_of_free hfree
    have hnext : (s.next p).added = s.added ++ [p] := by rw [Stage.next, hb]
    refine ⟨congrArg Prod.fst hb, ?_⟩
    rw [Stage.after, List.foldl_append]
    exact hnext

/-- The second plugin of one name is refused, and a plugin of another name is put behind the two that are
there. -/
theorem additions_keep_table_of_repeated :
    let s := Stage.after "netconf" [Plugin.standard, Plugin.legacy]
    let other : Plugin := { Plugin.legacy with name := "other" }
    s.backend.pluginsFor (.str Schedule.feature) = .ok [Plugin.standard, Plugin.legacy] ∧
      s.backend.addInPlace Plugin.standard = (.error (alreadyRegistered Plugin.standard), s.backend) ∧
      (Stage.after "netconf" [Plugin.standard, Plugin.legacy, other]).added =
        [Plugin.standard, Plugin.legacy, other] := by
  have hadded : (Stage.after "netconf" [Plugin.standard, Plugin.legacy]).added =
    [Plugin.standard, Plugin.legacy] := rfl
  obtain ⟨hplugins, -, -, hnext⟩ := additions_keep_table "netconf" [Plugin.standard, Plugin.legacy]
  simp only [hadded] at hplugins hnext
  refine ⟨(hplugins Schedule.feature).1, (hnext Plugin.standard).2.1 ⟨_, .head _, rfl, rfl⟩,
    ((hnext { Plugin.legacy with name := "other" }).2.2 ?_).2⟩
  rintro ⟨q, hq, -, hname⟩
  have hnames : ∀ q ∈ [Plugin.standard, Plugin.legacy], q.name ≠ "other" := by decide
  exact hnames q hq hname

end GateRollout.Backend
