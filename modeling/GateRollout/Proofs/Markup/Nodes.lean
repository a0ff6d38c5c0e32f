import GateRollout.Proofs.Markup.Contexts
import GateRollout.Proofs.Value.Entries

/-!
# What the encoder makes of a value

The encoder goes down a value in several ways: as markup of its own, under a key, as an item of a list
and as an entry of a gate control list.  Whatever the way, the nodes that come of it are made of the
keys and the leaves of the value and of a few fixed names, and it fails at nothing but a key or an integer
that is too long to be written.
-/

namespace GateRollout

/-! ## Values within values -/

/-- The values that the encoder goes on to from a value: the items of a list, the values under keys. -/
def Value.parts : Value → List Value
  | .list items => items
  | .tuple items => items
  | .map entries => entries.map (·.2)
  | _ => []

/-- A value is another one or stands within it, at any depth. -/
inductive Value.Within : Value → Value → Prop
  | self (v : Value) : Within v v
  | part {u v w : Value} : v ∈ w.parts → Within u v → Within u w

/-- Something holds of a value and of all values within it. -/
def Value.Everywhere (P : Value → Prop) (v : Value) : Prop := ∀ u : Value, u.Within v → P u

namespace Value

variable {P : Value → Prop} {v : Value}

theorem Everywhere.self (h : v.Everywhere P) : P v := h v (.self v)

theorem Everywhere.parts (h : v.Everywhere P) : ∀ w ∈ v.parts, w.Everywhere P :=
  fun _ hw u hu => h u (.part hw hu)

theorem everywhere_of_parts (h : P v) (hparts : ∀ w ∈ v.parts, w.Everywhere P) : v.Everywhere P := by
  rintro u (_ | ⟨hw, hu⟩)
  · exact h
  · exact hparts _ hw u hu

theorem sizeOf_lt_of_mem_parts {v w : Value} (h : w ∈ v.parts) : sizeOf w < sizeOf v := by
  cases v with
  | list items | tuple items =>
    have hlt : sizeOf w < sizeOf items := List.sizeOf_lt_of_mem h
    simp only [list.sizeOf_spec, tuple.sizeOf_spec]
    omega
  | map entries =>
    obtain ⟨e, he, rfl⟩ := List.mem_map.1 h
    have := List.sizeOf_lt_of_mem he
    obtain ⟨key, w⟩ := e
    simp only [map.sizeOf_spec, Prod.mk.sizeOf_spec] at this ⊢
    omega
  | _ => cases h

/-- What holds of a value whenever it holds of its parts holds of every value. -/
theorem parts_induction {motive : Value → Prop}
    (step : ∀ v : Value, (∀ w ∈ v.parts, motive w) → motive v) (v : Value) : motive v :=
  step v fun w hw =>
    have := sizeOf_lt_of_mem_parts hw
    parts_induction step w
termination_by sizeOf v

end Value

namespace Markup

/-! ## Nodes -/

/-- The names, the bodies and the marks of a node are as some predicates allow. -/
inductive Node.All (N : Name → Prop) (B M : Body → Prop) : Node → Prop
  | leaf {name : Name} {body : Body} : N name → B body → All N B M (.leaf name body)
  | branch {name : Name} {children : List Node} : N name → (∀ n ∈ children, All N B M n) →
      All N B M (.branch name children)
  | mark {body : Body} : M body → All N B M (.mark body)

/-- The body of the element that a value without entries is written as. -/
def bodyOf (v : Value) : Body :=
  if v.isNull then .nil else if isScalar v then .text (scalarText v) else .unsupported v.typeName

theorem leafOf_eq_ok {name : Name} {v : Value} {n : Node} :
    leafOf name v = .ok n ↔ (isScalar v = true → v.hasText = true) ∧ .leaf name (bodyOf v) = n := by
  rw [leafOf, bodyOf]
  cases hnull : v.isNull with
  | true =>
    have hscalar : isScalar v = false := by cases v <;> first | rfl | cases hnull
    simp [hscalar]
  | false =>
    cases hscalar : isScalar v <;> cases htext : v.hasText <;>
      simp [writtenScalar, htext, bind, Except.bind, pure, Except.pure]

theorem bodyOf_scalar {v : Value} (h : isScalar v = true) : bodyOf v = .text (scalarText v) := by
  cases v <;> first | rfl | cases h

theorem bodyOf_unsupported {v : Value} (hnull : v.isNull = false) (h : isScalar v = false) :
    bodyOf v = .unsupported v.typeName := by
  simp [bodyOf, hnull, h]

/-- The tags that the encoder writes without being given them. -/
def ownTags : List String := "value" :: gateEntryTag :: gateEntryFields

theorem mem_ownTags_of_field {key : Value} {i : Nat} (h : field? key = some i) :
    gateEntryFields.getD i "" ∈ ownTags := by
  obtain ⟨s, -, hs⟩ := Option.bind_eq_some_iff.1 h
  obtain ⟨hlength, -⟩ := List.idxOf?_eq_some_iff.1 hs
  refine List.mem_cons_of_mem _ (List.mem_cons_of_mem _ ?_)
  simp [List.getD, hlength]

theorem mem_of_mem_ordered {parts : List (Option Nat × Except Fault (List Node))}
    {part : Option Nat × Except Fault (List Node)} (h : part ∈ ordered parts) : part ∈ parts := by
  obtain ⟨_, -, h⟩ := List.mem_flatMap.1 h
  exact List.mem_of_mem_filter h

/-! ## What comes of an encoding -/

/-- What comes of a computation, a result or a fault, is as some predicates allow. -/
def Meets {α : Type} (E : Fault → Prop) (P : α → Prop) : Except Fault α → Prop
  | .ok a => P a
  | .error e => E e

theorem Meets.bind {α β : Type} {E : Fault → Prop} {P : α → Prop} {Q : β → Prop} {r : Except Fault α}
    {f : α → Except Fault β} (hr : Meets E P r) (hf : ∀ a, P a → Meets E Q (f a)) :
    Meets E Q (r >>= f) := by
  cases r with
  | error e => exact hr
  | ok a => exact hf a hr

theorem meets_mapM {α β : Type} {E : Fault → Prop} {P : β → Prop} {f : α → Except Fault β} {xs : List α}
    (h : ∀ x ∈ xs, Meets E P (f x)) : Meets E (fun ys => ∀ y ∈ ys, P y) (xs.mapM f) := by
  induction xs with
  | nil => exact List.forall_mem_nil _
  | cons x xs ih =>
    rw [List.forall_mem_cons] at h
    rw [List.mapM_cons]
    exact h.1.bind fun y hy => (ih h.2).bind fun ys hys => List.forall_mem_cons.2 ⟨hy, hys⟩

variable (E : Fault → Prop) (N : Name → Prop) (B M : Body → Prop)

/-- What the encoder writes of a value, apart from what is within it, and where it fails at a key or at a
scalar, is as some predicates allow. -/
structure Allows (v : Value) : Prop where
  key : ∀ entries, v = .map entries → ∀ e ∈ entries, Meets E N (nameOf e.1)
  text : isScalar v = true → v.hasText = false → E .unwritten
  body : B (bodyOf v)
  mark : isScalar v = false → M (bodyOf v)
  shortened : ∀ s, v = .str s → B (.text (escape (withoutModule s)))

/-- The names that a place gives to what stands there are as some predicates allow. -/
def Place.Allows : Place → Prop
  | under key => Meets E N (nameOf key)
  | item key => Meets E N (nameOf key)
  | field i => N ⟨gateEntryFields.getD i "", none⟩
  | _ => True

/-- What comes of an encoding, nodes or a fault, is as some predicates allow. -/
def Gives (r : Except Fault (List Node)) : Prop := Meets E (fun ns => ∀ n ∈ ns, n.All N B M) r

/-- What comes of a value is as some predicates allow, wherever these allow the value to stand. -/
def GivesAnywhere (v : Value) : Prop := ∀ p : Place, p.Allows E N → Gives E N B M (p.nodes v)

variable {E N B M}

theorem Node.All.gives {n : Node} (h : n.All N B M) : Gives E N B M (.ok [n]) :=
  List.forall_mem_singleton.2 h

theorem gives_written {α : Type} {f : α → Except Fault (List Node)} {xs : List α}
    (h : ∀ x ∈ xs, Gives E N B M (f x)) : Gives E N B M (written (xs.map f)) := by
  rw [written, List.mapM_map]
  refine (meets_mapM h).bind fun nss hnss n hn => ?_
  obtain ⟨ns, hns, hn⟩ := List.mem_flatten.1 hn
  exact hnss ns hns n hn

theorem Gives.branch {name : Name} {r : Except Fault (List Node)} (hname : N name)
    (hr : Gives E N B M r) : Meets E (fun n : Node => n.All N B M) (do return .branch name (← r)) :=
  hr.bind fun _ hns => .branch hname hns

theorem Allows.writtenScalar {v : Value} (h : Allows E N B M v) (hscalar : isScalar v = true) :
    Meets E (fun text => B (.text text)) (writtenScalar v) := by
  have hbody : B (.text (scalarText v)) := bodyOf_scalar hscalar ▸ h.body
  rw [Markup.writtenScalar]
  cases htext : v.hasText with
  | true => exact hbody
  | false => exact h.text hscalar htext

theorem Allows.leafOf {name : Name} {v : Value} (h : Allows E N B M v) (hname : N name) :
    Meets E (fun n : Node => n.All N B M) (leafOf name v) := by
  rw [Markup.leafOf]
  split
  · rename_i hnull
    exact .leaf hname (by simpa [bodyOf, hnull] using h.body)
  · rename_i hnull
    split
    · rename_i hscalar
      exact (h.writtenScalar hscalar).bind fun _ htext => .leaf hname htext
    · rename_i hscalar
      exact .leaf hname (by simpa [bodyOf, hnull, hscalar] using h.body)

/-! ### Below a value -/

theorem gives_nodesOfItems {items : List Value} (h : ∀ v ∈ items, GivesAnywhere E N B M v) :
    Gives E N B M (nodesOfItems items) := by
  rw [nodesOfItems_eq]
  exact gives_written fun v hv => h v hv .alone trivial

theorem gives_elementsOfItems {key : Value} {name : Name} (hkey : nameOf key = .ok name) (hname : N name)
    {items : List Value} (h : ∀ v ∈ items, GivesAnywhere E N B M v) :
    Gives E N B M (elementsOfItems name items) := by
  have hplace : (Place.item key).Allows E N := by rwa [Place.Allows, hkey]
  rw [elementsOfItems_eq hkey]
  exact gives_written fun v hv => h v hv _ hplace

theorem gives_nodesOfEntries {entries : Entries} (hkeys : ∀ e ∈ entries, Meets E N (nameOf e.1))
    (h : ∀ e ∈ entries, GivesAnywhere E N B M e.2) : Gives E N B M (nodesOfEntries entries) := by
  rw [nodesOfEntries_eq]
  exact gives_written fun e he => h e he (.under e.1) (hkeys e he)

theorem leafPlace_allows {key : Value} (hown : ∀ tag ∈ ownTags, N ⟨tag, none⟩)
    (hkey : Meets E N (nameOf key)) : (leafPlace key).Allows E N := by
  rw [leafPlace]
  split
  · rename_i hi
    exact hown _ (mem_ownTags_of_field hi)
  · exact hkey

theorem gives_gateEntry {entries : Entries} (hown : ∀ tag ∈ ownTags, N ⟨tag, none⟩)
    (hkeys : ∀ e ∈ entries, Meets E N (nameOf e.1)) (h : ∀ e ∈ entries, GivesAnywhere E N B M e.2) :
    Gives E N B M (inFieldOrder (gateEntryParts entries)) := by
  rw [inFieldOrder_eq, gateEntryParts_eq]
  refine gives_written fun part hpart => ?_
  obtain ⟨e, he, rfl⟩ := List.mem_map.1 (mem_of_mem_ordered hpart)
  exact h e he _ (leafPlace_allows hown (hkeys e he))

/-! ### In each place -/

section

variable {v : Value} (hown : ∀ tag ∈ ownTags, N ⟨tag, none⟩) (hv : Allows E N B M v)
  (hparts : ∀ w ∈ v.parts, GivesAnywhere E N B M w)

include hown hv hparts

theorem gives_entries {entries : Entries} (h : v = .map entries) :
    Gives E N B M (nodesOfEntries entries) ∧ Gives E N B M (inFieldOrder (gateEntryParts entries)) := by
  subst h
  have hvalues : ∀ e ∈ entries, GivesAnywhere E N B M e.2 :=
    fun e he => hparts e.2 (List.mem_map_of_mem he)
  exact ⟨gives_nodesOfEntries (hv.key entries rfl) hvalues,
    gives_gateEntry hown (hv.key entries rfl) hvalues⟩

theorem gives_alone : Gives E N B M (nodes v) := by
  unfold nodes
  split
  · exact (gives_entries hown hv hparts rfl).1
  · exact gives_nodesOfItems hparts
  · exact gives_nodesOfItems hparts
  · exact (Node.All.mark (hv.mark rfl)).gives
  · rename_i hnull
    have hnull : v.isNull = false := by
      cases v <;> first | rfl | exact absurd rfl hnull
    cases hscalar : isScalar v with
    | true =>
      exact (hv.writtenScalar hscalar).bind fun _ htext =>
        (Node.All.leaf (hown "value" List.mem_cons_self) htext).gives
    | false => exact (Node.All.mark (bodyOf_unsupported hnull hscalar ▸ hv.mark hscalar)).gives

theorem meets_element {name : Name} (hname : N name) :
    Meets E (fun n : Node => n.All N B M) (element name v) := by
  unfold element
  split
  · exact (gives_entries hown hv hparts rfl).1.branch hname
  · exact hv.leafOf hname

theorem gives_elements {key : Value} {name : Name} (hkey : nameOf key = .ok name) (hname : N name) :
    Gives E N B M (elements name v) := by
  unfold elements
  split
  · exact gives_elementsOfItems hkey hname hparts
  · exact gives_elementsOfItems hkey hname hparts
  · exact (gives_entries hown hv hparts rfl).1.bind fun _ hns => (Node.All.branch hname hns).gives
  · exact (hv.leafOf hname).bind fun _ hn => hn.gives

theorem meets_itemElement {name : Name} (hname : N name) :
    Meets E (fun n : Node => n.All N B M) (itemElement name v) := by
  unfold itemElement
  split
  · split
    · exact (gives_entries hown hv hparts rfl).2.branch (hown gateEntryTag (by decide))
    · exact (gives_entries hown hv hparts rfl).1.branch hname
  · exact (gives_nodesOfItems hparts).branch hname
  · exact (gives_nodesOfItems hparts).branch hname
  · exact hv.leafOf hname

theorem gives_field {i : Nat} (hname : N ⟨gateEntryFields.getD i "", none⟩) :
    Gives E N B M ((Place.field i).nodes v) := by
  rw [Place.nodes]
  have helement := meets_element hown hv hparts hname
  cases hn : element ⟨gateEntryFields.getD i "", none⟩ v with
  | error e =>
    rw [hn] at helement
    exact helement
  | ok n =>
    rw [hn] at helement
    change Gives E N B M (.ok _)
    dsimp only
    -- the name of an operation is written without its module, every other value as it is
    split
    · exact (Node.All.leaf hname (hv.shortened _ rfl)).gives
    · exact Node.All.gives helement

theorem gives_part : GivesAnywhere E N B M v := by
  intro p hp
  cases p with
  | alone => exact gives_alone hown hv hparts
  | under key =>
    rw [Place.Allows] at hp
    rw [Place.nodes]
    cases hkey : nameOf key with
    | error e =>
      rw [hkey] at hp
      exact hp
    | ok name =>
      rw [hkey] at hp
      exact gives_elements hown hv hparts hkey hp
  | item key =>
    exact hp.bind fun _ hname => (meets_itemElement hown hv hparts hname).bind fun _ hn => hn.gives
  | field i => exact gives_field hown hv hparts hp
  | nowhere => exact List.forall_mem_nil _

end

/-- Whatever comes of encoding a value is as some predicates allow, when these allow what the value gives
everywhere within it. -/
theorem gives_everywhere (hown : ∀ tag ∈ ownTags, N ⟨tag, none⟩) {v : Value}
    (h : v.Everywhere (Allows E N B M)) : GivesAnywhere E N B M v := by
  induction v using Value.parts_induction with
  | step v ih => exact gives_part hown h.self fun w hw => ih w hw (h.parts w hw)

end Markup

end GateRollout
