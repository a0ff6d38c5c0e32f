import GateRollout.Inventory.Loading
import GateRollout.Proofs.Files.Shelf
import GateRollout.Proofs.Inventory.Models
import GateRollout.Proofs.Schedule.Reading
import GateRollout.Proofs.Yaml.Keys

/-!
# Malformed inventories

An inventory file may hold anything at all.  Nearly all that can be amiss in it is reported by an error
of the store: when the file is loaded, or when the device that it concerns is asked for.  Four things
are not, and these are all: bytes that are no text, a value that the reader of documents cannot make,
such as the thirtieth of February, an infinite number as the port of a device, and an integer of too many
digits where a text is needed.  The reader is any that tells a fault in the form of a document from a value that
it cannot make; of a document that holds itself nothing is said.
-/

namespace GateRollout.Inventory

/-! ## Answers -/

/-- That an infinite number is no integer. -/
def endless : Failure := IntegerFault.infinite.toFailure

/-- Something is told, or the store reports why not; or an infinite number was met, or something has no text,
which take their conditions. -/
inductive IsAnswered {α : Type} (P Q : Prop) : Except Failure α → Prop
  | ok (a : α) : IsAnswered P Q (.ok a)
  | store {e : RolloutError} (h : e.kind.isA .store = true) : IsAnswered P Q (.error (.error e))
  | endless (h : P) : IsAnswered P Q (.error endless)
  | unwritten (h : Q) : IsAnswered P Q (.error .unwritten)

namespace IsAnswered

variable {α β : Type} {P P' Q Q' : Prop}

theorem mono {x : Except Failure α} (h : IsAnswered P Q x) (hP : P → P') (hQ : Q → Q') : IsAnswered P' Q' x := by
  cases h with
  | ok a => exact .ok a
  | store h => exact .store h
  | endless h => exact .endless (hP h)
  | unwritten h => exact .unwritten (hQ h)

theorem bind {x : Except Failure α} {f : α → Except Failure β} (hx : IsAnswered P Q x)
    (hf : ∀ a, x = .ok a → IsAnswered P Q (f a)) : IsAnswered P Q (x >>= f) := by
  cases hx with
  | ok a => exact hf a rfl
  | store h => exact .store h
  | endless h => exact .endless h
  | unwritten h => exact .unwritten h

theorem mapM {f : α → Except Failure β} {xs : List α} (h : ∀ x ∈ xs, IsAnswered P Q (f x)) :
    IsAnswered P Q (xs.mapM f) := by
  induction xs with
  | nil => exact .ok []
  | cons x xs ih =>
    obtain ⟨hx, hxs⟩ := List.forall_mem_cons.1 h
    rw [List.mapM_cons]
    exact hx.bind fun y _ => (ih hxs).bind fun ys _ => .ok (y :: ys)

end IsAnswered

theorem isAnswered_ofKind {α : Type} (P Q : Prop) (message : String) :
    IsAnswered P Q (.error (.ofKind .store message) : Except Failure α) := .store rfl

theorem isAnswered_refusal {α : Type} (P : Prop) (id : Value) (message : String → String) :
    IsAnswered P (¬id.hasText = true) (refusal .store id message : Except Failure α) := by
  rcases refusal_cases (α := α) .store id message with ⟨-, e, he, hkind⟩ | ⟨hid, he⟩
  · rw [he]
    exact .store (by rw [hkind]; rfl)
  · rw [he]
    exact .unwritten hid

theorem isAnswered_words (P : Prop) (v : Value) : IsAnswered P (¬v.hasText = true) v.words := by
  by_cases h : v.hasText = true
  · rw [Value.words_of_hasText h]
    exact .ok _
  · rw [Value.words_of_not_hasText h]
    exact .unwritten h

/-! ## Devices -/

/-- The management block among the entries of a device. -/
def blockOf (entries : Entries) : Entries :=
  match entries.valueAt "management" with
  | .map es => es
  | _ => []

/-- The entries of a device give a list of ports, an address, and an infinite number as the port to reach
it. -/
structure IsEndless (entries : Entries) : Prop where
  ports : ∃ ports, givenList entries "ports" = .list ports
  address : ∃ v, addressIn (blockOf entries) = some v
  port : ∃ v, (blockOf entries).valueAt? "port" = some v ∧ v.infinity?.isSome = true

/-- Something that is to be told of a device has no text: its name, its address or the name of a port. -/
def IsNameless (id : Value) (entries : Entries) : Prop :=
  ¬id.hasText = true ∨ (∃ v, addressIn (blockOf entries) = some v ∧ ¬v.hasText = true) ∨
    ∃ ports, givenList entries "ports" = .list ports ∧ ∃ v ∈ ports, ¬v.hasText = true

theorem portNumber_of_infinity (id : Value) {v : Value} (h : v.infinity?.isSome = true) :
    portNumber id v = .error endless := by
  rw [portNumber, Document.toInteger_eq_infinite.2 h]
  rfl

theorem isAnswered_portNumber (id v : Value) :
    IsAnswered (v.infinity?.isSome = true) (¬id.hasText = true) (portNumber id v) := by
  rw [portNumber]
  split
  · exact .ok _
  · case h_2 hv => exact .endless (Document.toInteger_eq_infinite.1 hv)
  · exact isAnswered_refusal _ id _

theorem managementOf_of_infinity (id : Value) {block : Entries} {address v : Value}
    (haddress : addressIn block = some address) (hport : block.valueAt? "port" = some v)
    (hv : v.infinity?.isSome = true) : managementOf id block = .error endless := by
  have hor : (block.valueAt? "ip_address").or (block.valueAt? "host") = addressIn block := rfl
  rw [managementOf, hor, haddress]
  simp only [hport, portNumber_of_infinity id hv]
  rfl

theorem isAnswered_managementOf (id : Value) (block : Entries) :
    IsAnswered
      ((∃ v, addressIn block = some v) ∧ ∃ v, block.valueAt? "port" = some v ∧ v.infinity?.isSome = true)
      (¬id.hasText = true ∨ ∃ v, addressIn block = some v ∧ ¬v.hasText = true)
      (managementOf id block) := by
  have hor : (block.valueAt? "ip_address").or (block.valueAt? "host") = addressIn block := rfl
  rw [managementOf, hor]
  cases haddress : addressIn block with
  | none => exact (isAnswered_refusal _ id _).mono (fun h => h) .inl
  | some address =>
    have haddress {P : Prop} : IsAnswered P (¬id.hasText = true ∨ ∃ v, some address = some v ∧ ¬v.hasText = true)
        address.words :=
      (isAnswered_words _ address).mono (fun h => h) fun h => .inr ⟨address, rfl, h⟩
    cases hport : block.valueAt? "port" with
    | none => exact IsAnswered.bind (.ok _) fun _ _ => haddress.bind fun _ _ => .ok _
    | some v =>
      refine IsAnswered.bind (α := Value) ?_ fun _ _ => haddress.bind fun _ _ => .ok _
      exact (isAnswered_portNumber id v).mono (fun hv => ⟨⟨address, rfl⟩, v, rfl, hv⟩) .inl

theorem hasText_of_valueAt? {entries : Entries} {name : String} {v : Value}
    (h : entries.valueAt? name = some v) (hv : ¬v.hasText = true) : ¬(Value.map entries).hasText = true := by
  obtain ⟨e, hfind, rfl⟩ := Option.map_eq_some_iff.1 h
  rw [Value.hasText, Value.entriesHaveText_iff]
  exact fun hall => hv (hall e (List.mem_of_find?_eq_some hfind)).2

theorem isAnswered_portOf (P : Prop) (id v : Value) :
    IsAnswered P (¬id.hasText = true ∨ ¬v.hasText = true) (portOf id v) := by
  have hwords : ∀ v : Value, IsAnswered P (¬v.hasText = true) (do return (⟨← v.words⟩ : Port)) := fun v =>
    (isAnswered_words P v).bind fun _ _ => .ok _
  cases v with
  | map entries =>
    rw [portOf]
    cases hname : Entries.valueAt? entries "name" with
    | some name => exact (hwords name).mono (fun h => h) fun h => .inr (hasText_of_valueAt? hname h)
    | none => exact (isAnswered_refusal P id _).mono (fun h => h) .inl
  | _ => exact (hwords _).mono (fun h => h) .inr

/-- A device is told from its entries, or the store reports why not, unless its port is infinite or something
of it has no text. -/
theorem isAnswered_readNode (id : Value) (entries : Entries) :
    IsAnswered (IsEndless entries) (IsNameless id entries) (readNode id entries) := by
  rw [readNode]
  split
  · case h_1 ports hports =>
    have hmanagement := (isAnswered_managementOf id (blockOf entries)).mono
      (fun hendless => IsEndless.mk ⟨ports, hports⟩ hendless.1 hendless.2) fun h =>
        (h.imp_right .inl : IsNameless id entries)
    refine hmanagement.bind fun _ _ => (IsAnswered.mapM fun v hv => ?_).bind fun _ _ => .ok _
    refine (isAnswered_portOf _ id v).mono (fun h => h) fun h => h.imp_right fun h => .inr ?_
    exact ⟨ports, hports, v, hv, h⟩
  · exact (isAnswered_refusal _ id _).mono (fun h => h) .inl

theorem IsEndless.readNode {entries : Entries} (h : IsEndless entries) (id : Value) :
    readNode id entries = .error endless := by
  obtain ⟨⟨ports, hports⟩, ⟨address, haddress⟩, v, hport, hv⟩ := h
  have hmanagement := managementOf_of_infinity id haddress hport hv
  rw [Inventory.readNode]
  simp only [hports]
  change (managementOf id (blockOf entries) >>= _) = _
  rw [hmanagement]
  rfl

/-! ## Loading -/

theorem isAnswered_sectionOf (P Q : Prop) (path : String) (doc : Entries) (name : String) :
    IsAnswered P Q (sectionOf path doc name) := by
  rw [sectionOf]
  split
  · exact .ok _
  · exact .ok _
  · exact isAnswered_ofKind _ _ _

theorem isAnswered_nodeOf (P : Prop) (defaults : Entries) (id v : Value) :
    IsAnswered P (¬id.hasText = true) (nodeOf defaults id v) := by
  cases v with
  | map own =>
    refine IsAnswered.bind ?_ fun _ _ => .ok _
    rw [managementBlock]
    split
    · exact .ok _
    · exact .ok _
    · exact isAnswered_refusal _ id _
  | _ => exact isAnswered_refusal _ id _

/-- A document lists a device under a name that has no text. -/
def ListsNameless (path : String) (doc : Value) : Prop :=
  ∃ nodes, sectionOf path (entriesOf doc) "nodes" = .ok nodes ∧ ∃ e ∈ nodes, ¬e.1.hasText = true

/-- An inventory is told from the data of a document, or the store reports why not, unless a device has a name
without a text. -/
theorem isAnswered_ofValue (P : Prop) (path : String) (v : Value) :
    IsAnswered P (ListsNameless path v) (ofValue path v) := by
  have hdoc : ∀ entries, IsAnswered P (ListsNameless path (.map entries)) (ofValue path (.map entries)) := by
    intro entries
    refine (isAnswered_sectionOf P _ path entries "defaults").bind fun defaults _ =>
      (isAnswered_sectionOf P _ path entries "nodes").bind fun nodes hnodes =>
      (isAnswered_sectionOf P _ path entries "configurations").bind fun _ _ =>
      (IsAnswered.mapM fun e he => ?_).bind fun _ _ => .ok _
    exact (isAnswered_nodeOf P defaults e.1 e.2).mono (fun h => h) fun h => ⟨nodes, hnodes, e, he, h⟩
  cases v with
  | map entries => exact hdoc entries
  | _ =>
    simp only [ofValue]
    split
    · exact isAnswered_ofKind _ _ _
    · exact hdoc []

/-- The keys of the maps that a document holds can be keys. -/
def HasKeys (doc : Value) : Prop :=
  ∀ e ∈ entriesOf doc, ∀ entries, e.2 = .map entries → ∀ e' ∈ entries, e'.1.unhashable? = none

/-- What is read by the reader of this library has keys that can be keys. -/
theorem hasKeys_of_reader {path text : String} {doc : Value} (h : Yaml.reader path text = .ok doc) :
    HasKeys doc := by
  rcases Yaml.isRead_of_read (mapError_eq_ok.1 h) with rfl | hread
  · nofun
  · intro e he entries hentries
    cases doc with
    | map es =>
      have hread' := (hread.map e he).2
      rw [hentries] at hread'
      exact fun e' he' => (hread'.map e' he').1
    | _ => cases he

theorem unhashable?_of_sectionOf {path name : String} {doc : Value} {entries : Entries} (hdoc : HasKeys doc)
    (h : sectionOf path (entriesOf doc) name = .ok entries) : ∀ e ∈ entries, e.1.unhashable? = none := by
  rw [sectionOf] at h
  split at h
  · cases h
    nofun
  · case h_2 es hvalue =>
    obtain rfl := Except.ok.inj h
    cases hfind : (entriesOf doc).find? fun e => e.1.isText name with
    | none => simp [Entries.valueAt, Entries.valueAt?, hfind] at hvalue
    | some e =>
      have he : e.2 = .map es := by simpa [Entries.valueAt, Entries.valueAt?, hfind] using hvalue
      exact hdoc e (List.mem_of_find?_eq_some hfind) es he
  · cases h

/-- The names of the devices of a document can be keys. -/
theorem unhashable?_of_mem_nodeIds {path : String} {doc : Value} {inv : Inventory} (hdoc : HasKeys doc)
    (h : ofValue path doc = .ok inv) : ∀ id ∈ inv.nodeIds, id.unhashable? = none := by
  intro id hid
  obtain ⟨⟨key, entries⟩, hmem, rfl⟩ := List.mem_map.1 hid
  obtain ⟨defaults, nodes, -, hnodes, hns⟩ := ofValue_eq_ok h
  obtain ⟨⟨key', w⟩, hmem', hnode⟩ := mem_of_mapM_eq_ok hns _ hmem
  obtain ⟨_, _, -, -, he⟩ := nodeOf_eq_ok hnode
  rw [(Prod.mk.inj he).1]
  exact unhashable?_of_sectionOf hdoc hnodes _ hmem'

/-! ## Answers of an inventory -/

/-- The store tells of all that is asked about the devices of an inventory, or reports why not; but not of a
device whose port is infinite, or of which something has no text. -/
structure Answers (inv : Inventory) : Prop where
  topology : IsAnswered (∃ e ∈ inv.nodes, IsEndless e.2) (∃ e ∈ inv.nodes, IsNameless e.1 e.2) inv.topology
  node : ∀ id ∈ inv.nodeIds,
    IsAnswered (∃ e ∈ inv.nodes, e.1.sameKey id = true ∧ IsEndless e.2)
      (¬id.hasText = true ∨ ∃ e ∈ inv.nodes, e.1.sameKey id = true ∧ IsNameless id e.2) (inv.node id)
  model : ∀ id ∈ inv.nodeIds, IsAnswered False (¬id.hasText = true) (inv.model id)
  endless : ∀ e ∈ inv.nodes, IsEndless e.2 → readNode e.1 e.2 = .error endless

theorem answers {inv : Inventory} (h : ∀ id ∈ inv.nodeIds, id.unhashable? = none) : inv.Answers where
  topology := by
    refine IsAnswered.bind (.mapM fun e he => ?_) fun _ _ => .ok _
    exact (isAnswered_readNode e.1 e.2).mono (fun hendless => ⟨e, he, hendless⟩) fun hn => ⟨e, he, hn⟩
  node id hid := by
    rw [node]
    cases hentries : inv.nodeEntries id with
    | error f =>
      rcases entryFor_eq_error (h id hid) hentries with ⟨-, e, rfl, he⟩ | ⟨htext, rfl⟩
      · exact .store (by rw [he]; rfl)
      · exact .unwritten (.inl htext)
    | ok entries =>
      obtain ⟨key, hmem, hkey⟩ := entryFor_eq_ok hentries
      exact (isAnswered_readNode id entries).mono (fun hendless => ⟨_, hmem, hkey, hendless⟩)
        fun hn => .inr ⟨_, hmem, hkey, hn⟩
  model id hid := by
    obtain ⟨hmodel, hstore⟩ := inv.model_eq_knownModel (h id hid)
    rw [hmodel]
    cases hknown : inv.knownModel id with
    | ok model => exact .ok model
    | error e =>
      rw [mapError_error]
      split
      · exact .store (hstore e hknown)
      · case isFalse htext => exact .unwritten htext
  endless e _ he := he.readNode e.1

/-! ## Loading a file -/

/-- What loading the file at a path comes to, by its bytes and a reader. -/
inductive Loads (read : DocumentReader) (path : String) (bytes : List UInt8) : Except Failure Inventory → Prop
  | undecodable {e : Text.Utf8Fault} (h : Text.decodeUtf8 bytes = .error e) :
      Loads read path bytes (.error (.fault ⟨.undecodable, e.message⟩))
  | unmade {text : String} {f : Fault} (htext : Text.decodeUtf8 bytes = .ok text)
      (h : read path text = .error (.value f)) : Loads read path bytes (.error (.fault f))
  | refused {text : String} {e : RolloutError} (htext : Text.decodeUtf8 bytes = .ok text)
      (h : ∀ f, read path text ≠ .error (.value f)) (he : e.kind.isA .store = true) :
        Loads read path bytes (.error (.error e))
  | nameless {text : String} {doc : Value} (htext : Text.decodeUtf8 bytes = .ok text)
      (h : read path text = .ok doc) (hname : ListsNameless path doc) : Loads read path bytes (.error .unwritten)
  | loaded {text : String} {doc : Value} {inv : Inventory} (htext : Text.decodeUtf8 bytes = .ok text)
      (h : read path text = .ok doc) (hinv : inv.Answers) : Loads read path bytes (.ok inv)

variable {read : DocumentReader} {path : String}

theorem loads_ofBytes (bytes : List UInt8) (hkeys : ∀ text doc, read path text = .ok doc → HasKeys doc)
    (hfinite : ∀ text, Text.decodeUtf8 bytes = .ok text → read path text ≠ .error .recursive) :
    Loads read path bytes (ofBytes read path bytes) := by
  rw [ofBytes]
  cases htext : Text.decodeUtf8 bytes with
  | error e => exact .undecodable htext
  | ok text =>
    change Loads read path bytes ((read path text).mapError (documentFailure path) >>= ofValue path)
    cases hread : read path text with
    | error e =>
      cases e with
      | value f => exact .unmade htext hread
      | malformed message => exact .refused htext (fun f h => nomatch hread.symm.trans h) rfl
      | recursive => exact absurd hread (hfinite text htext)
    | ok doc =>
      change Loads read path bytes (ofValue path doc)
      cases hinv : ofValue path doc with
      | ok inv => exact .loaded htext hread (answers (unhashable?_of_mem_nodeIds (hkeys text doc hread) hinv))
      | error f =>
        have hanswered := isAnswered_ofValue False path doc
        rw [hinv] at hanswered
        cases hanswered with
        | store he => exact .refused htext (fun f h => nomatch hread.symm.trans h) he
        | endless h => exact h.elim
        | unwritten h => exact .nameless htext hread h

variable {σ : Type}

/-- Whatever a file holds, and by whatever reader it is read, loading it gives an inventory that answers what
is asked of it, or it fails with an error of the store, or the bytes are no text, or the text holds a value that
cannot be made, or a device is listed under a name that has no text. -/
theorem load_outcome {h : Host σ} (hpath : path.isEmpty = false)
    (hkeys : ∀ text doc, h.readDocument path text = .ok doc → HasKeys doc) {j j₁ : Journal σ}
    {bytes : List UInt8} (hread : (h.readFile path).exec j = (.ok bytes, j₁))
    (hfinite : ∀ text, Text.decodeUtf8 bytes = .ok text → h.readDocument path text ≠ .error .recursive) :
    ∃ r j', (load h (.str path)).exec j = (r, j') ∧ Loads h.readDocument path bytes r := by
  have hlocate : locate h (.str path) = pure (.str path) := by
    rw [locate, if_pos]
    rw [Value.isGiven, hpath]
    rfl
  have hcontent : (contentOf h path).exec j = (.ok bytes, j₁) := by
    rw [contentOf, Action.exec_bind_ok (Action.exec_attempt _ j), hread]
    rfl
  have hloads := loads_ofBytes bytes hkeys hfinite
  rw [load, hlocate, Action.exec_bind_ok (Action.exec_pure _ j)]
  dsimp only
  rw [Action.exec_bind_ok hcontent]
  cases hbytes : ofBytes h.readDocument path bytes with
  | error f =>
    rw [hbytes] at hloads
    exact ⟨.error f, j₁, rfl, hloads⟩
  | ok inv =>
    rw [hbytes] at hloads
    exact ⟨.ok inv, _, rfl, hloads⟩

/-- An empty file holds an inventory. -/
theorem load_outcome_of_empty :
    ∃ inv j', (load .oneFile (.str "inventory.yaml")).exec ⟨[], [], []⟩ = (.ok inv, j') ∧ inv.Answers := by
  have hpath : "inventory.yaml".isEmpty = false := rfl
  have hread : (Host.oneFile.readFile "inventory.yaml").exec ⟨[], [], []⟩ = (.ok [], ⟨[], [], []⟩) := rfl
  have hfinite : ∀ text, Text.decodeUtf8 [] = .ok text →
      Host.oneFile.readDocument "inventory.yaml" text ≠ .error .recursive := by
    intro text htext
    obtain rfl : "" = text := Except.ok.inj htext
    nofun
  obtain ⟨r, j', hexec, hloads⟩ := load_outcome hpath (fun _ _ => hasKeys_of_reader) hread hfinite
  have hempty : (load .oneFile (.str "inventory.yaml")).exec ⟨[], [], []⟩ = (.ok ⟨[], []⟩, j') := by
    have hr : r = .ok ⟨[], []⟩ := congrArg Prod.fst hexec.symm
    rw [hexec, hr]
  cases hexec.symm.trans hempty
  cases hloads with
  | loaded _ _ hinv => exact ⟨_, j', hempty, hinv⟩

/-- A byte that begins no character: the failure to decode it is none of the store's errors. -/
theorem undecodable_byte_escapes :
    ∃ f j', (load .oneFile (.str "inventory.yaml")).exec ⟨[], [], [0xFF]⟩ = (.error f, j') ∧
      f.kindName = "UnicodeDecodeError" ∧ ∀ e : RolloutError, f ≠ .error e :=
  ⟨_, _, rfl, rfl, nofun⟩

end GateRollout.Inventory
