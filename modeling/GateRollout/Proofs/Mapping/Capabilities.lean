import GateRollout.Proofs.Mapping.Ranking
import GateRollout.Proofs.Mapping.Rendering
import GateRollout.Proofs.Text.Numeral

/-!
# What a device supports

A device supports a plugin when some item of its list of modules describes each module that the plugin
requires.  How the items are spelt, where they stand, and how often, does not matter.
-/

namespace GateRollout

/-! ## Spellings of a module -/

/-- A text names a module: it is the name itself, or the name of a file that is named after the module. -/
inductive SchemaModule.IsNamedBy : String → String → Prop
  | name {s : String} (h : ∀ name, s ≠ name ++ ".yang") : IsNamedBy s s
  | file (name : String) : IsNamedBy (name ++ ".yang") name

theorem SchemaModule.withoutEnding_file (name : String) : withoutEnding (name ++ ".yang") = name := by
  have hlist : (name ++ ".yang").toList = name.toList ++ fileEnding := String.toList_append
  have hsuffix : fileEnding.isSuffixOf (name.toList ++ fileEnding) = true :=
    List.isSuffixOf_iff_suffix.2 (List.suffix_append _ _)
  rw [withoutEnding, hlist]
  simp only [hsuffix, if_true, List.length_append, Nat.add_sub_cancel, List.take_left', String.ofList_toList]

theorem SchemaModule.withoutEnding_of_ne {s : String} (h : ∀ name, s ≠ name ++ ".yang") :
    withoutEnding s = s := by
  refine if_neg fun hsuffix => ?_
  obtain ⟨t, ht⟩ := List.isSuffixOf_iff_suffix.1 hsuffix
  refine h (String.ofList t) (String.toList_injective ?_)
  rw [String.toList_append, String.toList_ofList, ← ht]
  rfl

theorem SchemaModule.withoutEnding_eq_iff {s name : String} :
    withoutEnding s = name ↔ IsNamedBy s name := by
  constructor
  · rintro rfl
    by_cases h : ∃ name, s = name ++ ".yang"
    · obtain ⟨name, rfl⟩ := h
      rw [withoutEnding_file]
      exact .file name
    · have hne : ∀ name, s ≠ name ++ ".yang" := fun name heq => h ⟨name, heq⟩
      rw [withoutEnding_of_ne hne]
      exact .name hne
  · rintro (h | name)
    · exact withoutEnding_of_ne h
    · exact withoutEnding_file _

namespace DeviceModel

/-- A name and a revision of any kind are those of a module: both have a text, and the module has the name
and the text of the revision. -/
structure Spelt (given revision : Value) (m : SchemaModule) : Prop where
  named : given.hasText = true
  dated : revision.hasText = true
  name : SchemaModule.IsNamedBy given.text m.name
  revision : m.revision = revision.text

/-- An item describes a module, by its name and the text of its revision: it is a module, a map with a name
and perhaps a revision, or a pair of both. -/
inductive Describes : ModuleItem → SchemaModule → Prop
  | known {m : SchemaModule} {name : String} (h : SchemaModule.IsNamedBy m.name name) :
      Describes (.known m) ⟨name, m.revision⟩
  | dated {entries : Entries} {given revision : Value} {m : SchemaModule}
      (hname : entries.valueAt? "name" = some given) (hrevision : entries.valueAt? "revision" = some revision)
      (h : Spelt given revision m) : Describes (.described (.map entries)) m
  | undated {entries : Entries} {given : Value} {m : SchemaModule}
      (hname : entries.valueAt? "name" = some given) (hrevision : entries.valueAt? "revision" = none)
      (h : Spelt given (.str "") m) : Describes (.described (.map entries)) m
  | pair {v given revision : Value} {m : SchemaModule} (hmap : ∀ entries, v ≠ .map entries)
      (hmembers : v.members? = some [given, revision]) (h : Spelt given revision m) :
      Describes (.described v) m

theorem pairOf_eq_ok_iff {v a b : Value} : pairOf v = .ok (a, b) ↔ v.members? = some [a, b] := by
  rw [pairOf]
  split
  case h_1 hnone => simp [hnone]
  case h_2 x y hpair => simp [hpair]
  case h_3 xs hpair hxs =>
    constructor
    · intro h
      split at h <;> cases h
    · intro h
      exact absurd (Option.some.inj (hxs.symm.trans h)) (hpair a b)

theorem normalized_eq_ok_iff {given revision : Value} {m : SchemaModule} :
    SchemaModule.normalized given revision = .ok m ↔ Spelt given revision m := by
  constructor
  · intro h
    obtain ⟨name, hname, h⟩ := bind_eq_ok.1 h
    obtain ⟨text, htext, h⟩ := bind_eq_ok.1 h
    obtain ⟨hnamed, rfl⟩ := Value.written_eq_ok.1 hname
    obtain ⟨hdated, rfl⟩ := Value.written_eq_ok.1 htext
    obtain rfl := Except.ok.inj h
    exact ⟨hnamed, hdated, SchemaModule.withoutEnding_eq_iff.1 rfl, rfl⟩
  · intro h
    refine bind_eq_ok.2 ⟨_, Value.written_eq_ok.2 ⟨h.named, rfl⟩,
      bind_eq_ok.2 ⟨_, Value.written_eq_ok.2 ⟨h.dated, rfl⟩, congrArg Except.ok ?_⟩⟩
    rw [SchemaModule.ofTexts, SchemaModule.withoutEnding_eq_iff.2 h.name, ← h.revision]

/-- An item is read as the module that it describes. -/
theorem moduleOf_eq_ok_iff {item : ModuleItem} {m : SchemaModule} :
    moduleOf item = .ok m ↔ Describes item m := by
  constructor
  · intro h
    unfold moduleOf at h
    split at h
    case h_1 m' =>
      obtain rfl := Except.ok.inj h
      exact .known (SchemaModule.withoutEnding_eq_iff.1 rfl)
    case h_2 entries =>
      split at h
      case h_2 => cases h
      case h_1 given hname =>
        cases hrevision : Entries.valueAt? entries "revision" with
        | none => exact .undated hname hrevision (normalized_eq_ok_iff.1 (by rwa [hrevision] at h))
        | some revision => exact .dated hname hrevision (normalized_eq_ok_iff.1 (by rwa [hrevision] at h))
    case h_3 v hmap =>
      obtain ⟨⟨given, revision⟩, hpair, h⟩ := bind_eq_ok.1 h
      exact .pair hmap (pairOf_eq_ok_iff.1 hpair) (normalized_eq_ok_iff.1 h)
  · intro h
    cases h with
    | known h => rw [moduleOf, SchemaModule.ofTexts, SchemaModule.withoutEnding_eq_iff.2 h]
    | dated hname hrevision h =>
      rw [moduleOf, hname, hrevision]
      exact normalized_eq_ok_iff.2 h
    | undated hname hrevision h =>
      rw [moduleOf, hname, hrevision]
      exact normalized_eq_ok_iff.2 h
    | pair hmap hmembers h =>
      rw [moduleOf, pairOf_eq_ok_iff.2 hmembers]
      · exact normalized_eq_ok_iff.2 h
      · exact hmap

/-- The modules of a device are those that its items describe. -/
theorem ofItems_of_describes {items : List ModuleItem} (h : ∀ item ∈ items, ∃ m, Describes item m) :
    ∃ model, ofItems items = .ok model ∧
      ∀ m, m ∈ model.modules ↔ ∃ item ∈ items, Describes item m := by
  obtain ⟨ms, hms⟩ : ∃ ms, items.mapM moduleOf = .ok ms :=
    mapM_ok fun item hitem => (h item hitem).imp fun m => moduleOf_eq_ok_iff.2
  refine ⟨⟨ms.eraseDups⟩, by rw [ofItems, hms]; rfl, fun m => ?_⟩
  rw [List.mem_eraseDups]
  constructor
  · intro hm
    obtain ⟨item, hitem, hmodule⟩ := mem_of_mapM_eq_ok hms m hm
    exact ⟨item, hitem, moduleOf_eq_ok_iff.1 hmodule⟩
  · rintro ⟨item, hitem, hmodule⟩
    exact mem_of_mapM_of_mem hms hitem (moduleOf_eq_ok_iff.2 hmodule)

/-- Two items describe one module. -/
def SameModule (item item' : ModuleItem) : Prop := ∃ m, Describes item m ∧ Describes item' m

/-- An item describes no more than one module. -/
theorem Describes.unique {item : ModuleItem} {m m' : SchemaModule} (h : Describes item m)
    (h' : Describes item m') : m = m' :=
  Except.ok.inj ((moduleOf_eq_ok_iff.2 h).symm.trans (moduleOf_eq_ok_iff.2 h'))

/-- Items in other spellings give the same model. -/
theorem ofItems_congr {items items' : List ModuleItem} (h : List.Forall₂ SameModule items items') :
    ofItems items = ofItems items' := by
  have hmodules : items.mapM moduleOf = items'.mapM moduleOf := by
    induction h with
    | nil => rfl
    | cons hsame _ ih =>
      obtain ⟨m, hm, hm'⟩ := hsame
      rw [List.mapM_cons, List.mapM_cons, ih, moduleOf_eq_ok_iff.2 hm, moduleOf_eq_ok_iff.2 hm']
  rw [ofItems, ofItems, hmodules]

end DeviceModel

/-! ## Plugins -/

namespace Plugin

open DeviceModel (Describes SameModule)

variable {p : Plugin} {items items' : List ModuleItem}

/-- Each module that a plugin requires is described by some item. -/
def IsServedBy (p : Plugin) (items : List ModuleItem) : Prop :=
  ∀ m ∈ p.required, ∃ item ∈ items, Describes item m

theorem IsServedBy.mono (h : p.IsServedBy items) (hsub : items ⊆ items') : p.IsServedBy items' := by
  intro m hm
  obtain ⟨item, hitem, hdescribes⟩ := h m hm
  exact ⟨item, hsub hitem, hdescribes⟩

/-- A plugin is told whether a device with the modules of some items supports it, which changes nothing but
the journal. -/
def IsTold (p : Plugin) (items : List ModuleItem) (supported : Bool) : Prop :=
  ∃ model, DeviceModel.ofItems items = .ok model ∧
    ∀ σ, (p.supportedByDevice model : Action σ Bool).Quiet (.ok supported)

/-- A plugin is told that it is supported exactly where each of its modules is described. -/
theorem isTold_of_describes (h : ∀ item ∈ items, ∃ m, Describes item m) {supported : Bool}
    (hserved : supported = true ↔ p.IsServedBy items) : p.IsTold items supported := by
  obtain ⟨model, hmodel, hmodules⟩ := DeviceModel.ofItems_of_describes h
  have hsupported : p.isSupportedBy model = supported := by
    rw [Bool.eq_iff_iff, hserved, isSupportedBy_iff]
    exact forall₂_congr fun m _ => hmodules m
  exact ⟨model, hmodel, fun σ => hsupported ▸ p.quiet_supportedByDevice model⟩

/-- A plugin is told that a device supports it when each of the modules that it requires is described by an
item of the device's list, by its exact name and revision, and else that it does not.  It is told the same when
the items stand in another order or several times, and when they describe their modules in other spellings; and
with more items it stays supported. -/
theorem supported_iff_described (p : Plugin) (h : ∀ item ∈ items, ∃ m, Describes item m) :
    ∃ supported, p.IsTold items supported ∧
      (supported = true ↔ ∀ m ∈ p.required, ∃ item ∈ items, Describes item m) ∧
      (∀ items', (∀ item, item ∈ items' ↔ item ∈ items) → p.IsTold items' supported) ∧
      (∀ items', List.Forall₂ SameModule items items' → p.IsTold items' supported) ∧
      ∀ items', items ⊆ items' → (∀ item ∈ items', ∃ m, Describes item m) → supported = true →
        p.IsTold items' true := by
  classical
  have hserved : decide (p.IsServedBy items) = true ↔ p.IsServedBy items := decide_eq_true_iff
  refine ⟨_, isTold_of_describes h hserved, hserved, fun items' hmem => ?_, fun items' hsame => ?_,
    fun items' hsub h' hsupported => ?_⟩
  · refine isTold_of_describes (fun item hitem => h item ((hmem item).1 hitem)) (hserved.trans ?_)
    simp only [IsServedBy, hmem]
  · obtain ⟨model, hmodel, htold⟩ := isTold_of_describes h hserved
    exact ⟨model, (DeviceModel.ofItems_congr hsame).symm.trans hmodel, htold⟩
  · exact isTold_of_describes h' (iff_of_true rfl ((hserved.1 hsupported).mono hsub))

/-- A device lists the modules of the standard plugin, and with them a module whose revision is an integer of
too many digits: the list gives no model, so there is no answer. -/
theorem long_revision_has_no_answer :
    let items : List ModuleItem :=
      Plugin.standard.required.map .known ++
        [.described (.list [.str "ietf-interfaces", .int Text.leastUnwritten])]
    Plugin.standard.IsServedBy items ∧ ∀ supported, ¬Plugin.standard.IsTold items supported := by
  intro items
  constructor
  · intro m hm
    have hplain : SchemaModule.withoutEnding m.name = m.name :=
      (by decide : ∀ m ∈ Plugin.standard.required, SchemaModule.withoutEnding m.name = m.name) m hm
    exact ⟨.known m, List.mem_append_left _ (List.mem_map_of_mem hm),
      .known (SchemaModule.withoutEnding_eq_iff.1 hplain)⟩
  · rintro supported ⟨model, hmodel, -⟩
    obtain ⟨ms, hms, -⟩ := bind_eq_ok.1 hmodel
    obtain ⟨m, hm⟩ := ok_of_mapM_eq_ok hms _ (List.mem_append_right _ (List.mem_singleton.2 rfl))
    cases DeviceModel.moduleOf_eq_ok_iff.1 hm with
    | @pair _ _ revision _ hmap hmembers h =>
      obtain ⟨-, rfl⟩ : _ ∧ .int Text.leastUnwritten = revision := by
        simpa only [Value.members?, Option.some.injEq, List.cons.injEq, and_true] using hmembers
      have hdated := Value.hasText_int.symm.trans h.dated
      rw [Text.isWritten_leastUnwritten] at hdated
      cases hdated

/-- A device lists the modules of the standard plugin with a module that nobody asks for: each of them in
another way, one by its file and one with a day for its revision. -/
theorem supported_iff_described_mixed :
    let items : List ModuleItem :=
      [.known ⟨"ieee802-dot1q-sched.yang", "2021-02-08"⟩,
        .described (.map [(.str "revision", .date ⟨2021, 2, 8⟩),
          (.str "name", .str "ieee802-dot1q-sched-bridge")]),
        .described (.tuple [.str "ietf-interfaces", .null])]
    let respelt : List ModuleItem :=
      [.described (.list [.str "ieee802-dot1q-sched", .date ⟨2021, 2, 8⟩]),
        .known ⟨"ieee802-dot1q-sched-bridge", "2021-02-08"⟩,
        .described (.map [(.str "name", .str "ietf-interfaces.yang"), (.str "revision", .null)])]
    Plugin.standard.IsTold items true ∧ Plugin.standard.IsTold items.reverse true ∧
      Plugin.standard.IsTold respelt true := by
  intro items respelt
  have hdescribes {item : ModuleItem} {m : SchemaModule} (h : DeviceModel.moduleOf item = .ok m) :=
    DeviceModel.moduleOf_eq_ok_iff.1 h
  have hfirst : Describes items[0] ⟨"ieee802-dot1q-sched", "2021-02-08"⟩ := hdescribes (by rfl)
  have hsecond : Describes items[1] ⟨"ieee802-dot1q-sched-bridge", "2021-02-08"⟩ := hdescribes (by rfl)
  have hthird : Describes items[2] ⟨"ietf-interfaces", "None"⟩ := hdescribes (by rfl)
  have hrespelt : List.Forall₂ SameModule items respelt :=
    .cons ⟨_, hfirst, hdescribes (by rfl)⟩
      (.cons ⟨_, hsecond, hdescribes (by rfl)⟩ (.cons ⟨_, hthird, hdescribes (by rfl)⟩ .nil))
  obtain ⟨supported, htold, hserved, hmembers, hspelt, -⟩ := Plugin.standard.supported_iff_described
    (List.forall_mem_cons.2 ⟨⟨_, hfirst⟩, List.forall_mem_cons.2 ⟨⟨_, hsecond⟩,
      List.forall_mem_singleton.2 ⟨_, hthird⟩⟩⟩)
  obtain rfl : supported = true := by
    refine hserved.2 (List.forall_mem_cons.2 ⟨⟨_, ?_, hfirst⟩,
      List.forall_mem_singleton.2 ⟨_, ?_, hsecond⟩⟩)
    all_goals simp [items]
  exact ⟨htold, hmembers _ fun item => List.mem_reverse, hspelt _ hrespelt⟩

end Plugin

end GateRollout
