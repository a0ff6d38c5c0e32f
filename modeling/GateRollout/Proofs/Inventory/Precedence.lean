import GateRollout.Proofs.Value.Entries
import GateRollout.Proofs.Value.Written
import GateRollout.Inventory.Basic

/-!
# Where the parts of a management come from

When an inventory is loaded, the defaults are filled into the management block of every device, key by
key.  How a device is reached is read off the filled block, so that each part comes from the device's own
block where that gives it, else from the defaults, else it is the usual one.

The address has two names, and filling in does not know that they mean the same.  A device that gives its
address as `host` alone is reached at the `ip_address` of the defaults, where these give one.
-/

namespace GateRollout.Inventory

/-- The entries of a document; a document that holds nothing has none. -/
def entriesOf : Value → Entries
  | .map entries => entries
  | _ => []

/-- A document gives a device a management block of its own, next to the defaults. -/
def Blocks (path : String) (doc id : Value) (own defaults : Entries) : Prop :=
  sectionOf path (entriesOf doc) "defaults" = .ok defaults ∧
  ∃ nodes key entries, sectionOf path (entriesOf doc) "nodes" = .ok nodes ∧
    (key, .map entries) ∈ nodes ∧ (key = id ∨ key.sameKey id = true) ∧
    managementBlock key entries = .ok own

/-- What a device's own block gives under a name, else what the defaults give. -/
def ownElseDefault (own defaults : Entries) (name : String) : Option Value :=
  (own.valueAt? name).or (defaults.valueAt? name)

/-- The address that a block gives, under either of its names. -/
def addressIn (block : Entries) : Option Value :=
  (block.valueAt? "ip_address").or (block.valueAt? "host")

/-- A block gives its address by its second name alone, and the defaults give one by its first. -/
def IsOvertaken (own defaults : Entries) : Prop :=
  own.hasKey "ip_address" = false ∧ own.hasKey "host" = true ∧ defaults.hasKey "ip_address" = true

/-- The parts of a management come from a device's own block, else from the defaults, else they are the
usual ones.  Only an address that is overtaken comes from the defaults though the block gives one. -/
structure ComesFrom (own defaults : Entries) (m : Management) : Prop where
  address : ¬IsOvertaken own defaults →
    ∃ v, (addressIn own).or (addressIn defaults) = some v ∧ m.address = .str v.text
  overtaken : IsOvertaken own defaults →
    ∃ v, defaults.valueAt? "ip_address" = some v ∧ m.address = .str v.text
  port : (ownElseDefault own defaults "port" = none ∧ m.port = .int defaultPort) ∨
    ∃ v n, ownElseDefault own defaults "port" = some v ∧ v.toInteger = .ok n ∧ m.port = .int n
  username : m.username = (ownElseDefault own defaults "username").getD (.str "")
  protocol : m.protocol = (ownElseDefault own defaults "protocol").getD (.str "netconf")
  password : m.password = (ownElseDefault own defaults "password").getD .null
  passwordVariable :
    m.passwordVariable = (ownElseDefault own defaults "password_env").getD (.str "NETCONF_PASSWORD")

/-! ## Filling in -/

theorem valueAt?_withDefaults (defaults own : Entries) (name : String) :
    (withDefaults defaults own).valueAt? name = ownElseDefault own defaults name := by
  rw [ownElseDefault]
  induction defaults generalizing own with
  | nil => simp [withDefaults]
  | cons e defaults ih =>
    obtain ⟨k, v⟩ := e
    change Entries.valueAt?
      (withDefaults defaults (if (own.lookup k).isSome then own else own ++ [(k, v)])) name = _
    rw [ih, Entries.valueAt?_cons]
    by_cases hk : k.isText name = true
    · -- the entry is one under the name that is asked for: it counts where the block has none
      obtain rfl := Value.isText_iff.1 hk
      rw [Entries.lookup_str]
      cases hown : own.valueAt? name with
      | none => simp [hown, Entries.valueAt?_append, Entries.valueAt?_cons, hk]
      | some w => simp [hown]
    · have hsame : Entries.valueAt? (if (own.lookup k).isSome then own else own ++ [(k, v)]) name =
          own.valueAt? name := by
        split
        · rfl
        · simp [Entries.valueAt?_append, Entries.valueAt?_cons, hk]
      rw [hsame, if_neg hk]

theorem addressIn_withDefaults (own defaults : Entries) :
    addressIn (withDefaults defaults own) =
      ((own.valueAt? "ip_address").or (defaults.valueAt? "ip_address")).or
        ((own.valueAt? "host").or (defaults.valueAt? "host")) := by
  rw [addressIn, valueAt?_withDefaults, valueAt?_withDefaults]
  rfl

/-! ## Refusals -/

/-- What is refused by a name is an error of the rollout, unless the name has no text. -/
theorem refusal_cases {α : Type} (kind : ErrorKind) (id : Value) (message : String → String) :
    (id.hasText = true ∧
      ∃ e : RolloutError, (refusal kind id message : Except Failure α) = .error (.error e) ∧ e.kind = kind) ∨
    (¬id.hasText = true ∧ (refusal kind id message : Except Failure α) = .error .unwritten) := by
  by_cases h : id.hasText = true
  · refine .inl ⟨h, ?_⟩
    rw [refusal, Value.words_of_hasText h]
    exact ⟨_, rfl, rfl⟩
  · refine .inr ⟨h, ?_⟩
    rw [refusal, Value.words_of_not_hasText h]
    rfl

theorem refusal_of_hasText {α : Type} {id : Value} (h : id.hasText = true) (kind : ErrorKind)
    (message : String → String) :
    ∃ e : RolloutError, (refusal kind id message : Except Failure α) = .error (.error e) ∧ e.kind = kind :=
  (refusal_cases kind id message).elim And.right fun hn => absurd h hn.1

theorem refusal_ne_ok {α : Type} {kind : ErrorKind} {id : Value} {message : String → String} {a : α} :
    refusal kind id message ≠ .ok a := by
  rcases refusal_cases (α := α) kind id message with ⟨-, e, he, -⟩ | ⟨-, he⟩ <;> simp [he]

/-! ## Reading a device -/

theorem portNumber_eq_ok {id v port : Value} (h : portNumber id v = .ok port) :
    ∃ n, v.toInteger = .ok n ∧ port = .int n := by
  rw [portNumber] at h
  split at h
  case h_1 n hn => exact ⟨n, hn, (Except.ok.inj h).symm⟩
  case h_2 => cases h
  case h_3 => exact absurd h refusal_ne_ok

theorem managementOf_eq_ok {id : Value} {block : Entries} {m : Management}
    (h : managementOf id block = .ok m) :
    ∃ v, addressIn block = some v ∧ m.address = .str v.text ∧
    ((block.valueAt? "port" = none ∧ m.port = .int defaultPort) ∨
      ∃ v n, block.valueAt? "port" = some v ∧ v.toInteger = .ok n ∧ m.port = .int n) ∧
    m.username = (block.valueAt? "username").getD (.str "") ∧
    m.protocol = (block.valueAt? "protocol").getD (.str "netconf") ∧
    m.password = (block.valueAt? "password").getD .null ∧
    m.passwordVariable = (block.valueAt? "password_env").getD (.str "NETCONF_PASSWORD") := by
  have hor : (block.valueAt? "ip_address").or (block.valueAt? "host") = addressIn block := rfl
  rw [managementOf, hor] at h
  cases haddress : addressIn block with
  | none =>
    rw [haddress] at h
    exact absurd h refusal_ne_ok
  | some v =>
    rw [haddress] at h
    cases hport : block.valueAt? "port" with
    | none =>
      simp only [hport] at h
      obtain ⟨port, hpure, h⟩ := bind_eq_ok.1 h
      obtain rfl := Except.ok.inj hpure
      obtain ⟨address, htext, h⟩ := bind_eq_ok.1 h
      obtain ⟨-, rfl⟩ := Value.words_eq_ok.1 htext
      obtain rfl := Except.ok.inj h
      exact ⟨v, rfl, rfl, .inl ⟨rfl, rfl⟩, rfl, rfl, rfl, rfl⟩
    | some w =>
      simp only [hport] at h
      obtain ⟨port, hw, h⟩ := bind_eq_ok.1 h
      obtain ⟨address, htext, h⟩ := bind_eq_ok.1 h
      obtain ⟨n, hn, rfl⟩ := portNumber_eq_ok hw
      obtain ⟨-, rfl⟩ := Value.words_eq_ok.1 htext
      obtain rfl := Except.ok.inj h
      exact ⟨v, rfl, rfl, .inr ⟨w, n, rfl, hn, rfl⟩, rfl, rfl, rfl, rfl⟩

theorem managementOf_of_no_address (id : Value) {block : Entries} (h : addressIn block = none) :
    ∃ message, managementOf id block = refusal .store id message := by
  have hor : (block.valueAt? "ip_address").or (block.valueAt? "host") = addressIn block := rfl
  rw [managementOf, hor, h]
  exact ⟨_, rfl⟩

/-- What comes of a filled block comes from the two blocks that it was filled from. -/
theorem comesFrom_of_withDefaults {id : Value} {own defaults : Entries} {m : Management}
    (h : managementOf id (withDefaults defaults own) = .ok m) : ComesFrom own defaults m := by
  obtain ⟨v, haddress, hv, hport, husername, hprotocol, hpassword, hvariable⟩ := managementOf_eq_ok h
  rw [addressIn_withDefaults] at haddress
  simp only [valueAt?_withDefaults] at hport husername hprotocol hpassword hvariable
  refine ⟨?_, ?_, hport, husername, hprotocol, hpassword, hvariable⟩
  · intro hovertaken
    refine ⟨v, ?_, hv⟩
    rw [← haddress, addressIn, addressIn]
    simp only [IsOvertaken, Entries.hasKey] at hovertaken
    -- the two orders of looking differ only where the block has `host` and the defaults `ip_address`
    cases hip : own.valueAt? "ip_address" <;> cases hhost : own.valueAt? "host" <;>
      cases hdefault : defaults.valueAt? "ip_address" <;> simp_all
  · rintro ⟨hip, -, hdefault⟩
    obtain ⟨w, hw⟩ := Option.isSome_iff_exists.1 hdefault
    have hnone : own.valueAt? "ip_address" = none := by simpa [Entries.hasKey] using hip
    rw [hnone, hw] at haddress
    exact ⟨w, hw, by rw [hv, Option.some.inj haddress]⟩

theorem nodeOf_eq_ok {defaults : Entries} {id v : Value} {e : Value × Entries}
    (h : nodeOf defaults id v = .ok e) :
    ∃ entries own, v = .map entries ∧ managementBlock id entries = .ok own ∧
      e = (id, Entries.put entries "management" (.map (withDefaults defaults own))) := by
  cases v with
  | map entries =>
    obtain ⟨own, hown, h⟩ := bind_eq_ok.1 h
    exact ⟨entries, own, rfl, hown, (Except.ok.inj h).symm⟩
  | _ => exact absurd h refusal_ne_ok

/-- A device is read with its management block, once that was put where it belongs. -/
theorem readNode_put (id : Value) (entries block : Entries) :
    (∃ message, readNode id (entries.put "management" (.map block)) = refusal .store id message) ∨
    ∃ ports : List Value, readNode id (entries.put "management" (.map block)) = do
      return ⟨id, ← managementOf id block, ← ports.mapM (portOf id)⟩ := by
  have hblock := Entries.valueAt_put_self entries "management" (.map block)
  rw [readNode]
  split
  · case h_1 ports hports => exact .inr ⟨ports, by rw [hblock]⟩
  · exact .inl ⟨_, rfl⟩

theorem readNode_put_eq_ok {id : Value} {entries block : Entries} {n : Node}
    (h : readNode id (entries.put "management" (.map block)) = .ok n) :
    n.id = id ∧ managementOf id block = .ok n.management := by
  rcases readNode_put id entries block with ⟨message, hrefused⟩ | ⟨ports, hports⟩
  · rw [hrefused] at h
    exact absurd h refusal_ne_ok
  · rw [hports] at h
    obtain ⟨m, hm, h⟩ := bind_eq_ok.1 h
    obtain ⟨ps, -, h⟩ := bind_eq_ok.1 h
    obtain rfl := Except.ok.inj h
    exact ⟨rfl, hm⟩

/-! ## Loading -/

/-- A document that holds nothing is one without entries. -/
theorem ofValue_entriesOf {path : String} {doc : Value} {inv : Inventory}
    (h : ofValue path doc = .ok inv) : ofValue path (.map (entriesOf doc)) = .ok inv := by
  cases doc with
  | map entries => exact h
  | _ =>
    simp only [ofValue] at h
    split at h
    · cases h
    · exact h

theorem ofValue_eq_ok {path : String} {doc : Value} {inv : Inventory}
    (h : ofValue path doc = .ok inv) :
    ∃ defaults nodes, sectionOf path (entriesOf doc) "defaults" = .ok defaults ∧
      sectionOf path (entriesOf doc) "nodes" = .ok nodes ∧
      (nodes.mapM fun (id, v) => nodeOf defaults id v) = .ok inv.nodes := by
  obtain ⟨_, hentries, h⟩ := bind_eq_ok.1 (ofValue_entriesOf h)
  obtain rfl := Except.ok.inj hentries
  obtain ⟨defaults, hdefaults, h⟩ := bind_eq_ok.1 h
  obtain ⟨nodes, hnodes, h⟩ := bind_eq_ok.1 h
  obtain ⟨configurations, -, h⟩ := bind_eq_ok.1 h
  obtain ⟨ns, hns, h⟩ := bind_eq_ok.1 h
  obtain rfl := Except.ok.inj h
  exact ⟨defaults, nodes, hdefaults, hnodes, hns⟩

/-- Every device of a loaded inventory has the block that its document gives it, filled. -/
theorem blocks_of_mem {path : String} {doc : Value} {inv : Inventory} (h : ofValue path doc = .ok inv)
    {key : Value} {filled : Entries} (hmem : (key, filled) ∈ inv.nodes) :
    ∃ entries own defaults, filled = Entries.put entries "management" (.map (withDefaults defaults own)) ∧
      ∀ id, key = id ∨ key.sameKey id = true → Blocks path doc id own defaults := by
  obtain ⟨defaults, nodes, hdefaults, hnodes, hns⟩ := ofValue_eq_ok h
  obtain ⟨⟨k, v⟩, hmemv, hv⟩ := mem_of_mapM_eq_ok hns _ hmem
  obtain ⟨entries, own, rfl, hown, he⟩ := nodeOf_eq_ok hv
  obtain ⟨rfl, rfl⟩ := Prod.mk.inj he
  exact ⟨entries, own, defaults, rfl, fun id hid =>
    ⟨hdefaults, nodes, _, entries, hnodes, hmemv, hid, hown⟩⟩

theorem entryFor_eq_ok {α : Type} {entries : List (Value × α)} {key : Value} {missing : String} {a : α}
    (h : entryFor entries key missing = .ok a) : ∃ k, (k, a) ∈ entries ∧ k.sameKey key = true := by
  rw [entryFor] at h
  cases hkey : key.unhashable? with
  | some t => simp [hkey] at h
  | none =>
    simp only [hkey] at h
    cases hfind : entries.find? fun e => e.1.sameKey key with
    | none =>
      simp only [hfind] at h
      exact absurd h refusal_ne_ok
    | some e =>
      simp only [hfind] at h
      obtain rfl := Except.ok.inj h
      exact ⟨e.1, List.mem_of_find?_eq_some hfind, (List.find?_some hfind :)⟩

/-- What is not found is refused, where it could have been found at all. -/
theorem entryFor_eq_error {α : Type} {entries : List (Value × α)} {key : Value} {missing : String}
    {f : Failure} (hkey : key.unhashable? = none) (h : entryFor entries key missing = .error f) :
    (key.hasText = true ∧ ∃ e : RolloutError, f = .error e ∧ e.kind = .notFound) ∨
    (¬key.hasText = true ∧ f = .unwritten) := by
  simp only [entryFor, hkey] at h
  split at h
  · cases h
  · rcases refusal_cases (α := α) .notFound key fun key => s!"{missing}: {key}" with
      ⟨hkey, e, he, hkind⟩ | ⟨hkey, he⟩
    · exact .inl ⟨hkey, e, Except.error.inj (h.symm.trans he), hkind⟩
    · exact .inr ⟨hkey, Except.error.inj (h.symm.trans he)⟩

/-! ## The management of a device -/

/-- The parts of the management of every device of a loaded inventory come from the device's own block,
else from the defaults, else they are the usual ones.  Where no block gives an address, the store reports
that of a device whose name has a text; an address that a device gives as `host` alone is overtaken by the
`ip_address` of the defaults. -/
theorem management_precedence {path : String} {doc : Value} {inv : Inventory}
    (h : ofValue path doc = .ok inv) :
    (∀ id n, inv.node id = .ok n →
      ∃ own defaults, Blocks path doc id own defaults ∧ ComesFrom own defaults n.management) ∧
    (∀ t, inv.topology = .ok t → ∀ n ∈ t.nodes,
      ∃ own defaults, Blocks path doc n.id own defaults ∧ ComesFrom own defaults n.management) ∧
    (∀ id, id.unhashable? = none → id.hasText = true →
      (∀ own defaults, Blocks path doc id own defaults →
        (addressIn own).or (addressIn defaults) = none) →
      ∃ e : RolloutError, inv.node id = .error (.error e) ∧ e.kind.isA .store = true) := by
  refine ⟨?_, ?_, ?_⟩
  · intro id n hn
    obtain ⟨filled, hfilled, hread⟩ := bind_eq_ok.1 hn
    obtain ⟨key, hmem, hkey⟩ := entryFor_eq_ok hfilled
    obtain ⟨entries, own, defaults, rfl, hblocks⟩ := blocks_of_mem h hmem
    exact ⟨own, defaults, hblocks id (.inr hkey),
      comesFrom_of_withDefaults (readNode_put_eq_ok hread).2⟩
  · intro t ht n hn
    obtain ⟨nodes, hnodes, ht⟩ := bind_eq_ok.1 ht
    obtain rfl := Except.ok.inj ht
    obtain ⟨⟨key, filled⟩, hmem, hread⟩ := mem_of_mapM_eq_ok hnodes n hn
    obtain ⟨entries, own, defaults, rfl, hblocks⟩ := blocks_of_mem h hmem
    obtain ⟨hid, hm⟩ := readNode_put_eq_ok hread
    exact ⟨own, defaults, hblocks n.id (.inl hid.symm), comesFrom_of_withDefaults hm⟩
  · intro id hhash htext hnone
    cases hfilled : inv.nodeEntries id with
    | error f =>
      obtain ⟨-, e, rfl, he⟩ := (entryFor_eq_error hhash hfilled).resolve_right fun hn => hn.1 htext
      exact ⟨e, by rw [node, hfilled]; rfl, by rw [he]; rfl⟩
    | ok filled =>
      obtain ⟨key, hmem, hkey⟩ := entryFor_eq_ok hfilled
      obtain ⟨entries, own, defaults, rfl, hblocks⟩ := blocks_of_mem h hmem
      have hor := hnone own defaults (hblocks id (.inr hkey))
      have haddress : addressIn (withDefaults defaults own) = none := by
        rw [addressIn_withDefaults]
        simp only [addressIn, Option.or_eq_none_iff] at hor ⊢
        exact ⟨⟨hor.1.1, hor.2.1⟩, hor.1.2, hor.2.2⟩
      have hnode : inv.node id = readNode id (entries.put "management" (.map (withDefaults defaults own))) := by
        rw [node, hfilled]
        rfl
      rw [hnode]
      rcases readNode_put id entries (withDefaults defaults own) with ⟨message, hrefused⟩ | ⟨ports, hports⟩
      · obtain ⟨e, he, hkind⟩ := refusal_of_hasText (α := Node) htext .store message
        exact ⟨e, hrefused.trans he, by rw [hkind]; rfl⟩
      · obtain ⟨message, hrefused⟩ := managementOf_of_no_address id haddress
        obtain ⟨e, he, hkind⟩ := refusal_of_hasText (α := Management) htext .store message
        exact ⟨e, by rw [hports, hrefused, he]; rfl, by rw [hkind]; rfl⟩

/-- A device with a `host`, next to defaults with an `ip_address` and a user. -/
def overtakingDocument : Value :=
  .map [(.str "defaults", .map [(.str "ip_address", .str "192.0.2.1"), (.str "username", .str "admin")]),
    (.str "nodes", .map [(.str "a", .map [
      (.str "management", .map [(.str "host", .str "192.0.2.7")]), (.str "ports", .list [.str "p1"])])])]

/-- The inventory that comes of it. -/
def overtakingInventory : Inventory where
  nodes := [(.str "a", [
    (.str "management", .map [(.str "host", .str "192.0.2.7"), (.str "ip_address", .str "192.0.2.1"),
      (.str "username", .str "admin")]),
    (.str "ports", .list [.str "p1"])])]
  configurations := []

theorem management_precedence_of_host :
    ofValue "inventory.yaml" overtakingDocument = .ok overtakingInventory ∧
    ∃ own defaults, Blocks "inventory.yaml" overtakingDocument (.str "a") own defaults ∧
      ComesFrom own defaults { address := .str "192.0.2.1", username := .str "admin" } := by
  have h : ofValue "inventory.yaml" overtakingDocument = .ok overtakingInventory := rfl
  exact ⟨h, (management_precedence h).1 (.str "a") ⟨.str "a", _, [⟨"p1"⟩]⟩ rfl⟩

/-- The device gives an address of its own and is reached at that of the defaults. -/
theorem own_host_is_overtaken :
    ∃ own defaults n, ofValue "inventory.yaml" overtakingDocument = .ok overtakingInventory ∧
      Blocks "inventory.yaml" overtakingDocument (.str "a") own defaults ∧
      overtakingInventory.node (.str "a") = .ok n ∧
      addressIn own = some (.str "192.0.2.7") ∧ addressIn defaults = some (.str "192.0.2.1") ∧
      n.management.address = .str "192.0.2.1" := by
  refine ⟨[(.str "host", .str "192.0.2.7")], [(.str "ip_address", .str "192.0.2.1"),
    (.str "username", .str "admin")], ⟨.str "a", _, [⟨"p1"⟩]⟩, rfl,
    ⟨rfl, _, _, _, rfl, List.mem_cons_self, .inl rfl, rfl⟩, rfl, rfl, rfl, rfl⟩

end GateRollout.Inventory
