import GateRollout.Proofs.Mapping.Dialects
import GateRollout.Proofs.Markup.Total

/-!
# The plugins of this library

A variant is one of the two plugins of this library, whatever modules it is made to require.  Of a
schedule a variant makes a table or a stated error, and whatever it maps it can write.
-/

namespace GateRollout

/-! ## Trees of tables -/

namespace Standard

open Value

theorem hasTextKeys_tree (entries : List (String × Value)) :
    (tree entries).hasTextKeys = true ↔ ∀ e ∈ entries, e.2.hasTextKeys = true := by
  rw [tree, hasTextKeys, entriesHaveTextKeys_iff, List.forall_mem_map]
  exact forall₂_congr fun _ _ => and_iff_right rfl

theorem hasTextKeys_list (items : List Value) :
    (Value.list items).hasTextKeys = true ↔ ∀ v ∈ items, v.hasTextKeys = true := by
  rw [hasTextKeys, itemsHaveTextKeys_iff]

theorem hasTextKeys_number (n : Number) : n.toValue.hasTextKeys = true := by
  cases n <;> simp [Number.toValue, hasTextKeys]

theorem hasTextKeys_leaf? (key : String) (n : Option Int) :
    ∀ e ∈ leaf? key n, e.2.hasTextKeys = true := by
  cases n <;> simp [leaf?, hasTextKeys]

theorem hasTextKeys_entryTree (e : TableEntry) : (entryTree e).hasTextKeys = true := by
  rw [entryTree, hasTextKeys_tree]
  simp only [List.forall_mem_append, List.forall_mem_cons]
  exact ⟨⟨by simp [hasTextKeys], by simp [hasTextKeys], by simp [hasTextKeys], by simp⟩,
    hasTextKeys_leaf? _ _⟩

theorem hasTextKeys_tableTree (t : GateTable) : (tableTree t).hasTextKeys = true := by
  rw [tableTree, hasTextKeys_tree]
  simp only [List.forall_mem_append, List.forall_mem_cons, hasTextKeys_tree, hasTextKeys_list,
    List.forall_mem_map, hasTextKeys_entryTree, hasTextKeys_number]
  exact ⟨⟨by simp [hasTextKeys], hasTextKeys_leaf? _ _⟩, by simp [hasTextKeys]⟩

theorem hasTextKeys_portTree (t : GateTable) (interface : String) :
    (portTree t interface).hasTextKeys = true := by
  simp [portTree, hasTextKeys_tree, itemsHaveTextKeys_iff, hasTextKeys_tableTree, hasTextKeys]

theorem hasText_tree (entries : List (String × Value)) :
    (tree entries).hasText = true ↔ ∀ e ∈ entries, e.2.hasText = true := by
  rw [tree, hasText, entriesHaveText_iff, List.forall_mem_map]
  exact forall₂_congr fun _ _ => and_iff_right hasText_str

theorem hasText_list (items : List Value) :
    (Value.list items).hasText = true ↔ ∀ v ∈ items, v.hasText = true := by
  rw [hasText, membersHaveText_iff]

theorem hasText_number {n : Number} (h : n.isWritten = true) : n.toValue.hasText = true := by
  cases n with
  | int n => rwa [Number.toValue, hasText_int]
  | float x => rfl

theorem hasText_leaf? {key : String} {n : Option Int} (h : n.all Text.isWritten = true) :
    ∀ e ∈ leaf? key n, e.2.hasText = true := by
  cases n with
  | none => exact nofun
  | some n => exact List.forall_mem_singleton.2 (hasText_int.trans h)

theorem hasText_entryTree {e : TableEntry} (h : e.isWritten = true) : (entryTree e).hasText = true := by
  obtain ⟨hindex, hinterval, hstates⟩ := TableEntry.isWritten_iff.1 h
  rw [entryTree, hasText_tree]
  simp only [List.forall_mem_append, List.forall_mem_cons, hasText_int, hasText_str]
  exact ⟨⟨hindex, trivial, hinterval, nofun⟩, hasText_leaf? hstates⟩

/-- The tree of a table has a text when the numbers of the table are written. -/
theorem hasText_tableTree {t : GateTable} (h : t.isWritten = true) : (tableTree t).hasText = true := by
  obtain ⟨hstates, hentries, hnumerator, hdenominator, hextension, hseconds, hnanoseconds⟩ :=
    GateTable.isWritten_iff.1 h
  rw [tableTree, hasText_tree]
  simp only [List.forall_mem_append, List.forall_mem_cons, hasText_tree, hasText_list,
    List.forall_mem_map, hasText_int]
  exact ⟨⟨⟨rfl, nofun⟩, hasText_leaf? hstates⟩,
    ⟨fun e he => hasText_entryTree (hentries e he), nofun⟩,
    ⟨hasText_number hnumerator, hasText_number hdenominator, nofun⟩, hasText_number hextension,
    ⟨hseconds, hnanoseconds, nofun⟩, rfl, nofun⟩

theorem hasText_portTree {t : GateTable} (h : t.isWritten = true) (interface : String) :
    (portTree t interface).hasText = true := by
  simp [portTree, hasText_tree, membersHaveText_iff, hasText_tableTree h, hasText]

end Standard

/-! ## Variants -/

namespace Plugin

/-- One of the plugins of this library, with any required modules. -/
def IsVariant (p : Plugin) : Prop :=
  ∃ required, p = { standard with required } ∨ p = { legacy with required }

variable {p : Plugin}

theorem IsVariant.name_ne (h : p.IsVariant) : p.name.isEmpty = false := by
  obtain ⟨required, rfl | rfl⟩ := h <;> rfl

theorem IsVariant.dialect_ne (h : p.IsVariant) : p.dialect ≠ .bare := by
  obtain ⟨required, rfl | rfl⟩ := h <;> nofun

theorem IsVariant.checkMapped (h : p.IsVariant) (t : GateTable) : p.checkMapped (.table t) = .ok () := by
  obtain ⟨required, rfl | rfl⟩ := h <;> rfl

/-- A variant writes every table whose numbers are written, in the same way for all targets on a port of
the same name. -/
theorem IsVariant.payload_ok (h : p.IsVariant) {t : GateTable} (ht : t.isWritten = true) :
    ∃ text : String → String, ∀ target, p.payload (.table t) target = .ok (text target.interface) := by
  obtain ⟨required, rfl | rfl⟩ := h
  · choose text htext using fun interface =>
      Markup.encode_ok (Standard.hasTextKeys_portTree t interface) (Standard.hasText_portTree ht interface) 0
    refine ⟨text, fun target => ?_⟩
    change (Markup.encode (Standard.portTree t target.interface) 0).mapError _ = _
    rw [htext]
    rfl
  · exact ⟨Legacy.portMarkup t, fun target => if_pos ht⟩

/-- What a variant writes it sends to every target that has a name. -/
theorem IsVariant.sent_eq (h : p.IsVariant) {t : GateTable} {target : Target}
    (htarget : target.deviceName.hasText = true) : p.sent (.table t) target = p.payload (.table t) target := by
  rw [sent, h.checkMapped, Target.words_of_hasText htarget]
  cases p.payload (.table t) target <;> rfl

theorem IsVariant.sent_eq_ok (h : p.IsVariant) {t : GateTable} {target : Target} {payload : String} :
    p.sent (.table t) target = .ok payload ↔
      p.payload (.table t) target = .ok payload ∧ target.deviceName.hasText = true := by
  rw [sent, h.checkMapped]
  change (p.payload (.table t) target >>= _) = _ ↔ _
  constructor
  · intro hsent
    obtain ⟨text, htext, hsent⟩ := bind_eq_ok.1 hsent
    obtain ⟨_, hwords, hsent⟩ := bind_eq_ok.1 hsent
    obtain rfl := Except.ok.inj hsent
    exact ⟨htext, (Target.words_eq_ok.1 hwords).1⟩
  · rintro ⟨htext, htarget⟩
    rw [htext, Target.words_of_hasText htarget]
    rfl

/-- What keeps a variant from sending a table is a fault of a value. -/
theorem IsVariant.fault_of_sent (h : p.IsVariant) {t : GateTable} {target : Target} {f : Failure}
    (hsent : p.sent (.table t) target = .error f) : ∃ g, f = .fault g := by
  rw [sent, h.checkMapped] at hsent
  change (p.payload (.table t) target >>= _) = _ at hsent
  rcases bind_eq_error.1 hsent with hpayload | ⟨_, -, hsent⟩
  · obtain ⟨required, rfl | rfl⟩ := h
    · change (Markup.encode (Standard.portTree t target.interface) 0).mapError _ = _ at hpayload
      cases he : Markup.encode (Standard.portTree t target.interface) 0 with
      | ok text => cases hpayload.symm.trans (congrArg _ he)
      | error g => exact ⟨g, Except.error.inj (hpayload.symm.trans (congrArg _ he))⟩
    · change (if t.isWritten then _ else _) = _ at hpayload
      split at hpayload
      · cases hpayload
      · exact ⟨_, (Except.error.inj hpayload).symm⟩
  · rcases bind_eq_error.1 hsent with hwords | ⟨_, -, hsent⟩
    · by_cases ht : target.deviceName.hasText = true
      · cases (Target.words_of_hasText ht).symm.trans hwords
      · exact ⟨_, (Except.error.inj ((Target.words_of_not_hasText ht).symm.trans hwords)).symm⟩
    · cases hsent

/-- Of a schedule a variant makes a table whose numbers are written, or a stated error, unless something
that it has to tell cannot be told. -/
theorem IsVariant.mapped_cases (h : p.IsVariant) (s : Schedule) :
    (∃ t, t.isWritten = true ∧ p.mapped (.schedule s) = .ok (.table t)) ∨
    (∃ err, p.mapped (.schedule s) = .error (.error err)) ∨
    (¬p.Tells s ∧ p.mapped (.schedule s) = .error .unwritten) := by
  rw [mapped_schedule h.dialect_ne, mappedSchedule, Tells]
  cases Check.isTold p.dialect.denominator s with
  | false => exact .inr (.inr ⟨fun h => Bool.false_ne_true h.1, rfl⟩)
  | true =>
    rw [table]
    cases ht : GateTable.ofSchedule p.dialect.denominator p.dialect.summary s with
    | error faults => exact .inr (.inl ⟨_, rfl⟩)
    | ok t =>
      cases tellsOffset s with
      | false => exact .inr (.inr ⟨fun h => Bool.false_ne_true h.2, rfl⟩)
      | true =>
        exact .inl ⟨t, isWritten_ofSchedule p.dialect.denominator_pos p.dialect.isWritten_denominator ht, rfl⟩

/-- Every table that a variant makes has its numbers written. -/
theorem IsVariant.isWritten_of_mapped (h : p.IsVariant) {m : Intent} {t : GateTable}
    (hm : p.mapped m = .ok (.table t)) : t.isWritten = true := by
  match m with
  | .entry _ | .value _ | .message _ _ => obtain ⟨required, rfl | rfl⟩ := h <;> cases hm
  | .schedule s =>
    rcases h.mapped_cases s with ⟨t', ht', hs⟩ | ⟨_, hs⟩ | ⟨-, hs⟩
    · cases hs.symm.trans hm
      exact ht'
    · cases hs.symm.trans hm
    · cases hs.symm.trans hm

end Plugin

/-! ## Backends of variants -/

namespace Backend

variable {b : Backend}

/-- A backend that holds variants alone. -/
def HoldsVariants (b : Backend) : Prop := ∀ group ∈ b.variants, ∀ p ∈ group.2, p.IsVariant

/-- Everything that the plugins of a backend have to tell of a schedule can be told. -/
def Tells (b : Backend) (s : Schedule) : Prop := ∀ group ∈ b.variants, ∀ p ∈ group.2, p.Tells s

theorem mem_of_mem_pluginsOf {feature : String} {p : Plugin} (h : p ∈ b.pluginsOf feature) :
    ∃ group ∈ b.variants, p ∈ group.2 := by
  rw [pluginsOf] at h
  cases hf : b.variants.find? (·.1 == feature) with
  | none => simp [hf] at h
  | some group =>
    rw [hf] at h
    exact ⟨group, List.mem_of_find?_eq_some hf, h⟩

/-- The plugin for a feature is one of the feature's, or there is a stated error. -/
theorem selected_of_ranked_nil {b : Backend} {feature : String} {model : DeviceModel}
    (h : ranked model (b.pluginsOf feature) = []) :
    b.selected (.str feature) model = .error (b.unsupported (.str feature)) := by
  have hplugins : b.pluginsFor (.str feature) = .ok (b.pluginsOf feature) := rfl
  refine bind_eq_error.2 (.inr ⟨_, hplugins, ?_⟩)
  rw [h]
  rfl

theorem selected_of_ranked_cons {b : Backend} {feature : String} {model : DeviceModel} {p : Plugin}
    {rest : List Plugin} (h : ranked model (b.pluginsOf feature) = p :: rest) :
    b.selected (.str feature) model = .ok p := by
  have hplugins : b.pluginsFor (.str feature) = .ok (b.pluginsOf feature) := rfl
  refine bind_eq_ok.2 ⟨_, hplugins, ?_⟩
  rw [h]
  rfl

/-- Where one plugin alone is supported, it is the one that is taken. -/
theorem selected_of_filter {b : Backend} {feature : String} {model : DeviceModel} {p : Plugin}
    (h : (b.pluginsOf feature).filter (·.isSupportedBy model) = [p]) :
    b.selected (.str feature) model = .ok p := by
  have hranked : ranked model (b.pluginsOf feature) = [p] := by rw [ranked, h, List.mergeSort_singleton]
  exact selected_of_ranked_cons hranked

theorem selected_cases (b : Backend) (feature : String) (model : DeviceModel) :
    (∃ p ∈ b.pluginsOf feature, b.selected (.str feature) model = .ok p) ∨
    ∃ err, b.selected (.str feature) model = .error (.error err) := by
  cases hr : ranked model (b.pluginsOf feature) with
  | nil => exact .inr ⟨_, selected_of_ranked_nil hr⟩
  | cons p rest =>
    have hp : p ∈ ranked model (b.pluginsOf feature) := hr ▸ List.mem_cons_self
    rw [ranked, List.mem_mergeSort] at hp
    exact .inl ⟨p, List.mem_of_mem_filter hp, selected_of_ranked_cons hr⟩

/-! ## The ways a schedule goes -/

/-- An error with the plugin in front of its text, for a target that has a name. -/
def contextual (p : Plugin) (what : String) (err : RolloutError) (target : Target) : RolloutError :=
  ⟨err.kind, s!"plugin {p.name} {what}: {err.message}", some p.name, some target.label⟩

theorem inContext_error {target : Target} (h : target.deviceName.hasText = true) (p : Plugin)
    (what : String) (err : RolloutError) :
    inContext p target what (.error err) = .error (contextual p what err target) := by
  rw [inContext, Target.words_of_hasText h]
  rfl

/-- What a backend makes of a schedule on a device: no plugin serves it, the plugin does not map it, or
the plugin has a payload for every port.  What names a target asks for a target that has a name. -/
inductive Way (b : Backend) (s : Schedule) (model : DeviceModel) : Prop where
  | unserved (err : RolloutError)
      (selected : b.selected (.str Schedule.feature) model = .error (.error err))
      (rendered : ∀ target, b.rendered (.schedule s) model target = .error (.error err))
      (prepared : ∀ target, b.prepared (.schedule s) model target = .error (.error err))
  | unmapped (p : Plugin) (err : Target → RolloutError) (kind : ErrorKind)
      (selected : b.selected (.str Schedule.feature) model = .ok p)
      (name : p.name.isEmpty = false)
      (stated : ∀ target, (err target).kind = kind ∧ (err target).plugin = some p.name)
      (rendered : ∀ target, target.deviceName.hasText = true →
        b.rendered (.schedule s) model target = .error (.error (err target)))
      (prepared : ∀ target, target.deviceName.hasText = true →
        b.prepared (.schedule s) model target = .error (.error (err target)))
  | payload (p : Plugin) (text : String → String)
      (selected : b.selected (.str Schedule.feature) model = .ok p)
      (rendered : ∀ target, b.rendered (.schedule s) model target = .ok (text target.interface))
      (prepared : ∀ target, target.deviceName.hasText = true →
        b.prepared (.schedule s) model target = .ok (p, text target.interface))

theorem rendered_of_selected {s : Schedule} {model : DeviceModel} {p : Plugin}
    (hs : b.selected (.str Schedule.feature) model = .ok p) (target : Target) :
    b.rendered (.schedule s) model target =
      (p.mapped (.schedule s)).mapError (inContext p target "mapping failed") >>= fun mapped =>
        p.payload mapped target := by
  change b.selected (.str Schedule.feature) model >>= _ = _
  rw [hs]
  rfl

theorem prepared_of_selected {s : Schedule} {model : DeviceModel} {p : Plugin}
    (hs : b.selected (.str Schedule.feature) model = .ok p) (target : Target) :
    b.prepared (.schedule s) model target =
      (p.mapped (.schedule s)).mapError (inContext p target "mapping failed") >>= fun mapped =>
        (p.sent mapped target).mapError (inContext p target "push failed") >>= fun payload =>
          .ok (p, payload) := by
  change b.selected (.str Schedule.feature) model >>= _ = _
  rw [hs]
  rfl

/-- A schedule that can be told goes one of these ways on a backend of variants. -/
theorem HoldsVariants.way (h : b.HoldsVariants) {s : Schedule} (htells : b.Tells s)
    (model : DeviceModel) : b.Way s model := by
  rcases b.selected_cases Schedule.feature model with ⟨p, hp, hs⟩ | ⟨err, hs⟩
  · obtain ⟨group, hgroup, hp⟩ := mem_of_mem_pluginsOf hp
    have hv := h group hgroup p hp
    rcases hv.mapped_cases s with ⟨t, hwritten, hm⟩ | ⟨err, hm⟩ | ⟨hnot, -⟩
    · obtain ⟨text, ht⟩ := hv.payload_ok hwritten
      refine .payload p text hs (fun target => ?_) (fun target htarget => ?_)
      · rw [rendered_of_selected hs, hm]
        exact ht target
      · rw [prepared_of_selected hs, hm]
        change (p.sent (.table t) target).mapError _ >>= _ = _
        rw [hv.sent_eq htarget, ht target]
        rfl
    · refine .unmapped p (contextual p "mapping failed" err) err.kind hs hv.name_ne
        (fun target => ⟨rfl, rfl⟩) (fun target htarget => ?_) (fun target htarget => ?_)
      · rw [rendered_of_selected hs, hm]
        exact congrArg Except.error (inContext_error htarget p "mapping failed" err)
      · rw [prepared_of_selected hs, hm]
        exact congrArg Except.error (inContext_error htarget p "mapping failed" err)
    · exact absurd (htells group hgroup p hp) hnot
  · refine .unserved err hs (fun target => ?_) (fun target => ?_)
    · change b.selected (.str Schedule.feature) model >>= _ = _
      rw [hs]
      rfl
    · change b.selected (.str Schedule.feature) model >>= _ = _
      rw [hs]
      rfl

end Backend

end GateRollout
