import GateRollout.Proofs.Inventory.Precedence

/-!
# The modules of a device are known, or the store says why not

Whatever an inventory holds where the modules of a device are listed, the store either knows the modules
or fails with an error of its own, as long as the name of the device can be a key at all.  The error names
the device, so that there is none where the name has no text.
-/

namespace GateRollout

namespace DeviceModel

/-- The kinds of faults that a list of modules may have. -/
def IsListFault (f : Fault) : Prop :=
  f.kind = .missingKey ∨ f.kind = .wrongType ∨ f.kind = .wrongValue

theorem isListFault_of_pairOf {v : Value} {f : Fault} (h : pairOf v = .error f) : IsListFault f := by
  rw [pairOf] at h
  split at h
  · exact .inr (.inl (Except.error.inj h ▸ rfl))
  · cases h
  · split at h <;> exact .inr (.inr (Except.error.inj h ▸ rfl))

theorem isListFault_of_normalized {name revision : Value} {f : Fault}
    (h : SchemaModule.normalized name revision = .error f) : IsListFault f := by
  have hwritten : ∀ {v : Value} {f : Fault}, v.written = .error f → IsListFault f := fun h => by
    rw [Value.written] at h
    split at h
    · cases h
    · exact .inr (.inr (Except.error.inj h ▸ rfl))
  rcases bind_eq_error.1 h with hname | ⟨_, -, h⟩
  · exact hwritten hname
  · rcases bind_eq_error.1 h with hrevision | ⟨_, -, h⟩
    · exact hwritten hrevision
    · cases h

theorem isListFault_of_moduleOf {v : Value} {f : Fault} (h : moduleOf (.described v) = .error f) :
    IsListFault f := by
  cases v with
  | map entries =>
    simp only [moduleOf] at h
    split at h
    · exact isListFault_of_normalized h
    · exact .inl (Except.error.inj h ▸ rfl)
  | _ =>
    rcases bind_eq_error.1 h with hpair | ⟨pair, -, h⟩
    · exact isListFault_of_pairOf hpair
    · exact isListFault_of_normalized h

/-- What is no list of modules has one of these faults. -/
theorem isListFault_of_ofValue {v : Value} {f : Fault} (h : ofValue v = .error f) : IsListFault f := by
  rw [ofValue] at h
  split at h
  case h_1 items hitems =>
    rcases bind_eq_error.1 h with hmodules | ⟨modules, -, h⟩
    · obtain ⟨item, hitem, hf⟩ := mem_of_mapM_eq_error hmodules
      obtain ⟨w, -, rfl⟩ := List.mem_map.1 hitem
      exact isListFault_of_moduleOf hf
    · cases h
  case h_2 => exact .inr (.inl (Except.error.inj h ▸ rfl))

end DeviceModel

namespace Inventory

/-- What the store knows of the modules of a device, or the error of its own that keeps it from that. -/
def knownModel (inv : Inventory) (id : Value) : Except RolloutError DeviceModel :=
  match inv.model id with
  | .ok model => .ok model
  | .error (.error e) => .error e
  | .error (.fault f) => .error ⟨.store, f.text, none, none⟩

theorem model_eq_knownModel (inv : Inventory) {id : Value} (h : id.unhashable? = none) :
    (inv.model id = (inv.knownModel id).mapError fun err => if id.hasText then .error err else .unwritten) ∧
      ∀ e, inv.knownModel id = .error e → e.kind.isA .store = true := by
  have hcases : (∃ model, inv.model id = .ok model) ∨
      (id.hasText = true ∧ ∃ e : RolloutError, inv.model id = .error (.error e) ∧ e.kind.isA .store = true) ∨
      (¬id.hasText = true ∧ inv.model id = .error .unwritten) := by
    cases hentries : inv.nodeEntries id with
    | error f =>
      have hmodel : inv.model id = .error f := by
        rw [model, hentries]
        rfl
      refine .inr ((entryFor_eq_error h hentries).imp ?_ ?_)
      · rintro ⟨hid, e, rfl, he⟩
        exact ⟨hid, e, hmodel, by rw [he]; rfl⟩
      · rintro ⟨hid, rfl⟩
        exact ⟨hid, hmodel⟩
    | ok entries =>
      simp only [model, hentries, bind, Except.bind]
      cases hmodel : DeviceModel.ofValue (givenList entries "modules") with
      | ok model => exact .inl ⟨model, rfl⟩
      | error f =>
        have hkind : [FaultKind.missingKey, .wrongType, .wrongValue].contains f.kind = true := by
          rcases DeviceModel.isListFault_of_ofValue hmodel with hf | hf | hf <;> rw [hf] <;> rfl
        simp only [hkind, if_true]
        refine .inr ((refusal_cases .store id _).imp_left ?_)
        rintro ⟨hid, e, he, hstore⟩
        exact ⟨hid, e, he, by rw [hstore]; rfl⟩
  rw [knownModel]
  rcases hcases with ⟨model, hmodel⟩ | ⟨hid, e, hmodel, he⟩ | ⟨hid, hmodel⟩
  · rw [hmodel]
    exact ⟨rfl, nofun⟩
  · rw [hmodel]
    exact ⟨by rw [mapError_error, if_pos hid], fun e' h' => Except.error.inj h' ▸ he⟩
  · rw [hmodel]
    exact ⟨(congrArg Except.error (if_neg hid)).symm, fun e' h' => Except.error.inj h' ▸ rfl⟩

theorem readNode_eq_ok {id : Value} {entries : Entries} {n : Node} (h : readNode id entries = .ok n) :
    n.id = id ∧ ∃ block, managementOf id block = .ok n.management := by
  rw [readNode] at h
  split at h
  · obtain ⟨m, hm, h⟩ := bind_eq_ok.1 h
    obtain ⟨ports, -, h⟩ := bind_eq_ok.1 h
    obtain rfl := Except.ok.inj h
    exact ⟨rfl, _, hm⟩
  · exact absurd h refusal_ne_ok

/-- The devices of a topology are those of the inventory. -/
theorem mem_nodeIds {inv : Inventory} {t : Topology} (h : inv.topology = .ok t) :
    ∀ node ∈ t.nodes, node.id ∈ inv.nodeIds := by
  obtain ⟨nodes, hnodes, h⟩ := bind_eq_ok.1 h
  obtain rfl := Except.ok.inj h
  intro node hnode
  obtain ⟨⟨id, entries⟩, hmem, hread⟩ := mem_of_mapM_eq_ok hnodes node hnode
  rw [(readNode_eq_ok hread).1]
  exact List.mem_map_of_mem hmem

/-- The devices of a topology are at addresses with texts, as these were read as texts. -/
theorem hasText_address {inv : Inventory} {t : Topology} (h : inv.topology = .ok t) :
    ∀ node ∈ t.nodes, node.management.address.hasText = true := by
  obtain ⟨nodes, hnodes, h⟩ := bind_eq_ok.1 h
  obtain rfl := Except.ok.inj h
  intro node hnode
  obtain ⟨⟨id, entries⟩, -, hread⟩ := mem_of_mapM_eq_ok hnodes node hnode
  obtain ⟨-, block, hm⟩ := readNode_eq_ok hread
  obtain ⟨v, -, haddress, -⟩ := managementOf_eq_ok hm
  rw [haddress, Value.hasText_str]

end Inventory

end GateRollout
