import GateRollout.Proofs.Mapping.Dialects
import GateRollout.Proofs.Markup.Tags

/-!
# Legacy payloads are canonical

The legacy payload of a table is a row of tags that tells everything of the table but the order of its
entries, and the port.  The entries stand in the order of their indices, so tables that differ in the order
of their entries alone have the same payload.
-/

namespace GateRollout

namespace Legacy

open Markup Text

/-! ## The row of tags -/

/-- The tags of an element for a number, where there is one. -/
def optionTags (tag : String) (n : Option Int) : List Tag :=
  n.toList.flatMap fun n => leafTags tag (scalarText (.int n))

/-- The tags of the parameters of an entry. -/
def parameterTags (e : TableEntry) : List Tag :=
  elementTags ⟨parametersTag e.operation, none⟩ ""
    (optionTags "gate-states-value" e.gateStates ++
      leafTags "time-interval-value" (scalarText (.int e.interval)))

/-- The tags of an entry. -/
def entryTags (e : TableEntry) : List Tag :=
  elementTags ⟨"admin-control-list", none⟩ ""
    (leafTags "index" (scalarText (.int e.index)) ++
      (leafTags "operation-name" (escape e.operation) ++ parameterTags e))

/-- The tags of what stands behind the entries of a table. -/
def endTags (t : GateTable) : List Tag :=
  elementTags ⟨"admin-cycle-time", none⟩ ""
      (leafTags "numerator" (scalarText t.cycleNumerator.toValue) ++
        leafTags "denominator" (scalarText t.cycleDenominator.toValue)) ++
    (leafTags "admin-cycle-time-extension" (scalarText t.extension.toValue) ++
      (elementTags ⟨"admin-base-time", none⟩ ""
          (leafTags "seconds" (scalarText (.int t.baseSeconds)) ++
            leafTags "fractional-seconds" (scalarText (.int t.baseNanoseconds))) ++
        leafTags "config-change" (scalarText (.bool t.configChange))))

/-- The tags of a table. -/
def tableTags (t : GateTable) : List Tag :=
  leafTags "gate-enabled" (scalarText (.bool t.gateEnabled)) ++
    (optionTags "admin-gate-states" t.adminGateStates ++
      (leafTags "admin-control-list-length" (natText t.entries.length) ++
        ((byIndex t.entries).flatMap entryTags ++ endTags t)))

/-- The tags of a table on a port. -/
def portTags (t : GateTable) (interface : String) : List Tag :=
  elementTags ⟨"interfaces", namespaceOf? "ietf-interfaces"⟩ ""
    (elementTags ⟨"interface", none⟩ ""
      (leafTags "name" (escape interface) ++
        elementTags ⟨"gate-parameters", namespaceOf? Standard.schedModule⟩ "" (tableTags t)))

/-- Some texts, one behind the other, are the text of some tags. -/
def IsRow (texts : List String) (tags : List Tag) : Prop :=
  texts.flatMap String.toList = tags.flatMap Tag.text

namespace IsRow

variable {texts texts' : List String} {tags tags' : List Tag}

theorem append (h : IsRow texts tags) (h' : IsRow texts' tags') :
    IsRow (texts ++ texts') (tags ++ tags') := by
  rw [IsRow, List.flatMap_append, List.flatMap_append, h, h']

theorem cons {text : String} (h : IsRow [text] tags) (h' : IsRow texts tags') :
    IsRow (text :: texts) (tags ++ tags') := h.append h'

theorem map {α : Type} {f : α → String} {g : α → List Tag} (h : ∀ a, IsRow [f a] (g a))
    (items : List α) : IsRow (items.map f) (items.flatMap g) := by
  induction items with
  | nil => rfl
  | cons a rest ih => exact (h a).cons ih

theorem leaf (tag text : String) : IsRow [leaf tag text] (leafTags tag text) := by
  rw [IsRow, leafTags, elementTags_text]
  simp [Legacy.leaf, openTag, closeTag, Name.opening]

theorem leaf? (tag : String) (n : Option Int) : IsRow (leaf? tag n) (optionTags tag n) := by
  cases n with
  | none => rfl
  | some n => exact (leaf tag _).append (rfl : IsRow [] [])

theorem aroundIn (tag module : String) (h : IsRow texts tags) :
    IsRow [aroundIn tag module texts] (elementTags ⟨tag, namespaceOf? module⟩ "" tags) := by
  rw [IsRow, elementTags_text, ← h]
  simp [Legacy.aroundIn, closeTag]

theorem around (tag : String) (h : IsRow texts tags) :
    IsRow [around tag texts] (elementTags ⟨tag, none⟩ "" tags) := by
  rw [IsRow, elementTags_text, ← h]
  simp [Legacy.around, openTag, closeTag, Name.opening]

end IsRow

theorem isRow_entryMarkup (e : TableEntry) : IsRow [entryMarkup e] (entryTags e) :=
  .around _ ((IsRow.leaf _ _).cons ((IsRow.leaf _ _).cons
    (.around _ ((IsRow.leaf? _ _).append (.leaf _ _)))))

theorem isRow_tableMarkup (t : GateTable) : IsRow (tableMarkup t) (tableTags t) := by
  simp only [tableMarkup, List.append_assoc]
  refine (IsRow.leaf _ _).append ((IsRow.leaf? _ _).append ((IsRow.leaf _ _).append
    ((IsRow.map isRow_entryMarkup _).append ?_)))
  exact (IsRow.around _ ((IsRow.leaf _ _).cons (.leaf _ _))).cons ((IsRow.leaf _ _).cons
    ((IsRow.around _ ((IsRow.leaf _ _).cons (.leaf _ _))).cons (.leaf _ _)))

/-- The text of a payload is that of its tags. -/
theorem portMarkup_text (t : GateTable) (interface : String) :
    (portMarkup t interface).toList = (portTags t interface).flatMap Tag.text := by
  have h : IsRow [portMarkup t interface] (portTags t interface) :=
    .aroundIn _ _ (.around _ ((IsRow.leaf _ _).cons (.aroundIn _ _ (isRow_tableMarkup t))))
  simpa [IsRow] using h

/-! ## What the row tells -/

/-- An optional element is told from what stands behind it, where that does not begin with its tag. -/
theorem determines_optionTags {α β : Type} {g : α → List Tag} {w : α → β} (tag : String)
    (n : α → Option Int) (hg : Determines g w)
    (hapart : Apart (fun n => leafTags tag (scalarText (.int n))) g) :
    Determines (fun a => optionTags tag (n a) ++ g a) fun a => (n a, w a) := by
  have hleaf : Determines (fun n => leafTags tag (scalarText (.int n))) id :=
    (determines_leafTags tag _).imp fun _ _ => scalarText_int_inj.1
  refine (hleaf.flatMap_append hg hapart fun a => (n a).toList).imp fun a b h => ?_
  obtain ⟨hn, hw⟩ := Prod.mk.inj h
  rw [List.map_id, List.map_id] at hn
  exact Prod.ext (by simpa using congrArg List.head? hn) hw

/-- The tags of an entry tell the entry. -/
theorem determines_entryTags : Determines entryTags id := by
  have hinterval : Determines
      (fun e : TableEntry => leafTags "time-interval-value" (scalarText (.int e.interval)))
      TableEntry.interval :=
    (determines_leafTags _ _).imp fun _ _ => scalarText_int_inj.1
  have hparameters : Determines parameterTags _ :=
    determines_elementTags (determines_optionTags _ TableEntry.gateStates hinterval
      (apart_of_cons (by decide) (fun _ => ⟨_, _, rfl⟩) fun _ => ⟨_, _, rfl⟩)) _ _
  refine (determines_elementTags ((determines_leafTags "index" _).append
    ((determines_leafTags "operation-name" _).append hparameters)) _ _).imp fun e f h => ?_
  simp only [Prod.mk.injEq] at h
  obtain ⟨-, hindex, hoperation, -, hstates, hinterval⟩ := h
  rw [id, id, TableEntry.mk.injEq]
  exact ⟨scalarText_int_inj.1 hindex, escape_injective hoperation, hinterval, hstates⟩

/-- What the tags of a table tell: all of it, but of its numbers their text alone. -/
def tableTold (t : GateTable) :=
  (t.gateEnabled, t.adminGateStates, byIndex t.entries, scalarText t.cycleNumerator.toValue,
    scalarText t.cycleDenominator.toValue, scalarText t.extension.toValue, t.baseSeconds,
    t.baseNanoseconds, t.configChange)

theorem determines_tableTags : Determines tableTags tableTold := by
  -- from the end on, as what may be left out or repeated is told from what stands behind it
  have hend : Determines endTags _ :=
    (determines_elementTags ((determines_leafTags "numerator" _).append
      (determines_leafTags "denominator" _)) _ _).append
    ((determines_leafTags "admin-cycle-time-extension" _).append
      ((determines_elementTags ((determines_leafTags "seconds" _).append
        (determines_leafTags "fractional-seconds" _)) _ _).append
      (determines_leafTags "config-change" _)))
  have hentries := determines_entryTags.flatMap_append hend
    (apart_of_cons (by decide) (fun _ => ⟨_, _, rfl⟩) fun _ => ⟨_, _, rfl⟩) fun t => byIndex t.entries
  have hstates := determines_optionTags "admin-gate-states" GateTable.adminGateStates
    ((determines_leafTags "admin-control-list-length" fun t => natText t.entries.length).append hentries)
    (apart_of_cons (by decide) (fun _ => ⟨_, _, rfl⟩) fun _ => ⟨_, _, rfl⟩)
  refine ((determines_leafTags "gate-enabled" _).append hstates).imp fun t u h => ?_
  simp only [Prod.mk.injEq, List.map_id] at h
  obtain ⟨henabled, hstates, -, hentries, ⟨-, hnum, hden⟩, hext, ⟨-, hsec, hnano⟩, hchange⟩ := h
  simp only [tableTold, Prod.mk.injEq]
  exact ⟨scalarText_bool_inj.1 henabled, hstates, hentries, hnum, hden, hext,
    scalarText_int_inj.1 hsec, scalarText_int_inj.1 hnano, scalarText_bool_inj.1 hchange⟩

/-- The tags of a table on a port tell the table, as far as its tags do, and the port. -/
theorem determines_portTags : Determines (fun x : GateTable × String => portTags x.1 x.2) fun x =>
    (x.2, tableTold x.1) := by
  refine (determines_elementTags (determines_elementTags ((determines_leafTags "name" _).append
    (determines_elementTags (determines_tableTags.comp Prod.fst) _ _)) _ _) _ _).imp fun x y h => ?_
  simp only [Prod.mk.injEq] at h
  obtain ⟨-, -, hname, -, htable⟩ := h
  exact Prod.ext (escape_injective hname) htable

/-! ## What the row looks like -/

theorem parametersTag_mem (operation : String) :
    parametersTag operation ∈ ["sgs-params", "shm-params", "srm-params"] := by
  rw [parametersTag]
  split <;> decide

theorem isPlain_parametersTag (operation : String) : Name.IsPlain ⟨parametersTag operation, none⟩ :=
  Name.isPlain_bare ((by decide : ∀ tag ∈ ["sgs-params", "shm-params", "srm-params"],
    isName tag.toList = true) _ (parametersTag_mem operation))

theorem isContent_optionTags {tag : String} (htag : isName tag.toList = true) (n : Option Int) :
    IsContent (optionTags tag n) :=
  .flatMap fun _ _ => .scalar htag _

theorem isContent_entryTags (e : TableEntry) : IsContent (entryTags e) := by
  have hoperation : IsContent (leafTags "operation-name" (escape e.operation)) :=
    .scalar (by decide) (.str e.operation)
  have hparameters : IsContent (parameterTags e) := .around (isPlain_parametersTag _)
    ((isContent_optionTags (by decide) _).append (.scalar (by decide) _))
  exact .around (Name.isPlain_bare (by decide))
    ((IsContent.scalar (by decide) _).append (hoperation.append hparameters))

theorem isContent_endTags (t : GateTable) : IsContent (endTags t) := by
  refine .append (.around (Name.isPlain_bare (by decide)) ?cycleTime)
    (.append (.scalar (by decide) _) (.append (.around (Name.isPlain_bare (by decide)) ?baseTime)
      (.scalar (by decide) _)))
  case cycleTime => exact .append (.scalar (by decide) _) (.scalar (by decide) _)
  case baseTime => exact .append (.scalar (by decide) _) (.scalar (by decide) _)

theorem isContent_tableTags (t : GateTable) : IsContent (tableTags t) := by
  have hlength : IsContent (leafTags "admin-control-list-length" (natText t.entries.length)) :=
    .scalar (by decide) (.int (Int.ofNat t.entries.length))
  exact (IsContent.scalar (by decide) _).append ((isContent_optionTags (by decide) _).append
    (hlength.append ((IsContent.flatMap fun e _ => isContent_entryTags e).append (isContent_endTags t))))

theorem isElement_portTags (t : GateTable) (interface : String) : IsElement (portTags t interface) := by
  have hname : IsContent (leafTags "name" (escape interface)) := .scalar (by decide) (.str interface)
  have htable : IsContent (elementTags ⟨"gate-parameters", namespaceOf? Standard.schedModule⟩ "" _) :=
    .around (Name.isPlain_namespaced (by decide) _) (isContent_tableTags t)
  exact isElement_elementTags (Name.isPlain_namespaced (by decide) _) .nil
    (.around (Name.isPlain_bare (by decide)) (hname.append htable))

/-- A payload falls into its tags. -/
theorem tagsOf_portMarkup (t : GateTable) (interface : String) :
    tagsOf (portMarkup t interface).toList = portTags t interface := by
  rw [portMarkup_text]
  exact tagsOf_text (isElement_portTags t interface).readable

/-! ## What stands under the names -/

theorem dataUnder_entryTags (e : TableEntry) :
    dataUnder "index" (entryTags e) = [intText e.index] ∧
      dataUnder "admin-control-list" (entryTags e) = [""] ∧
      dataUnder "admin-control-list-length" (entryTags e) = [] := by
  have hparameters : ∀ tag ∈ ["index", "admin-control-list", "admin-control-list-length"],
      parametersTag e.operation ≠ tag := by
    intro tag htag heq
    exact (by decide : ∀ tag ∈ ["sgs-params", "shm-params", "srm-params"],
      tag ∉ ["index", "admin-control-list", "admin-control-list-length"]) _
      (parametersTag_mem e.operation) (heq ▸ htag)
  simp only [List.forall_mem_cons] at hparameters
  simp (disch := first | exact isPlain_parametersTag _ | exact Name.isPlain_bare (by decide) | decide)
    [entryTags, parameterTags, optionTags, leafTags, dataUnder_elementTags, hparameters, scalarText]

theorem dataUnder_portTags (t : GateTable) (interface : String) :
    dataUnder "index" (portTags t interface) = (byIndex t.entries).map (fun e => intText e.index) ∧
      dataUnder "admin-control-list" (portTags t interface) = (byIndex t.entries).map (fun _ => "") ∧
      dataUnder "admin-control-list-length" (portTags t interface) = [natText t.entries.length] := by
  have hnil : ∀ {α : Type} (l : List α), l.flatMap (fun _ => ([] : List String)) = [] := by simp
  simp (disch := first | exact Name.isPlain_bare (by decide)
                       | exact Name.isPlain_namespaced (by decide) _ | decide)
    [portTags, tableTags, endTags, optionTags, leafTags, dataUnder_elementTags, dataUnder_entryTags, hnil,
      List.map_eq_flatMap]

/-! ## The order of the entries -/

theorem byIndex_perm (entries : List TableEntry) : (byIndex entries).Perm entries :=
  List.mergeSort_perm ..

/-- The indices of a table stand in strictly increasing order, as no two of them are the same. -/
theorem pairwise_byIndex {entries : List TableEntry} (h : (entries.map TableEntry.index).Nodup) :
    (byIndex entries).Pairwise fun a b => a.index < b.index := by
  have hsorted : (byIndex entries).Pairwise fun a b => a.index ≤ b.index := by
    have hle : (byIndex entries).Pairwise fun a b => decide (a.index ≤ b.index) = true :=
      List.pairwise_mergeSort (fun a b c => by simpa using Int.le_trans)
        (fun a b => by simpa using Int.le_total _ _) entries
    exact hle.imp of_decide_eq_true
  have hnodup : ((byIndex entries).map TableEntry.index).Nodup :=
    ((byIndex_perm entries).map _).nodup_iff.2 h
  rw [List.Nodup, List.pairwise_map] at hnodup
  exact (hsorted.and hnodup).imp fun hab => Int.lt_iff_le_and_ne.2 hab

/-- Entries with distinct indices have one order by their indices, whatever order they come in. -/
theorem byIndex_eq_iff {entries entries' : List TableEntry} (h : (entries.map TableEntry.index).Nodup)
    (h' : (entries'.map TableEntry.index).Nodup) :
    byIndex entries = byIndex entries' ↔ entries.Perm entries' := by
  constructor
  · intro heq
    exact (byIndex_perm entries).symm.trans (heq ▸ byIndex_perm entries')
  · intro hentries
    refine List.Perm.eq_of_pairwise (fun a b _ _ hab hba => absurd hab (Int.lt_asymm hba))
      (pairwise_byIndex h) (pairwise_byIndex h') ?_
    exact (byIndex_perm entries).trans (hentries.trans (byIndex_perm entries').symm)

/-! ## Payloads of tables -/

variable {denominator : Int} {s s' : Schedule} {t u : GateTable}

/-- Two tables of schedules, in the same parts of a second, have the same payload exactly when they go to
ports of the same name and differ in the order of their entries alone. -/
theorem portMarkup_eq_iff (ht : t.Expresses denominator s) (hu : u.Expresses denominator s')
    (interface interface' : String) :
    portMarkup t interface = portMarkup u interface' ↔
      interface = interface' ∧ { t with entries := u.entries } = u ∧ t.entries.Perm u.entries := by
  constructor
  · intro h
    have htags : portTags t interface ++ [] = portTags u interface' ++ [] := by
      rw [← tagsOf_portMarkup, h, tagsOf_portMarkup]
    obtain ⟨hinterface, htold⟩ := Prod.mk.inj
      (determines_portTags (a := (t, interface)) (b := (u, interface')) htags).1
    obtain ⟨n, hn, -⟩ := ht.numerator
    obtain ⟨m, hm, -⟩ := hu.numerator
    simp only [tableTold, Prod.mk.injEq, hn, hm] at htold
    obtain ⟨henabled, hstates, hentries, hnm, -, -, hsec, hnano, hchange⟩ := htold
    obtain rfl : n = m := scalarText_int_inj.1 hnm
    refine ⟨hinterface, ?_, (byIndex_eq_iff ht.nodup hu.nodup).1 hentries⟩
    rw [henabled, hstates, hn, ← hm, ht.denominator, ← hu.denominator, hsec, hnano, ht.extension,
      ← hu.extension, hchange]
  · rintro ⟨rfl, htable, hperm⟩
    obtain ⟨entries, rfl⟩ : ∃ entries, u = { t with entries } := ⟨u.entries, htable.symm⟩
    rw [portMarkup, portMarkup, tableMarkup, tableMarkup, (byIndex_eq_iff ht.nodup hu.nodup).2 hperm,
      hperm.length_eq]

/-- What every legacy payload looks like: one well-formed element, in which each entry of the table has an
element of its own, in the order of the indices, behind the number of entries. -/
structure IsCanonical (t : GateTable) (payload : String) : Prop where
  element : Element (fun _ => True) payload.toList
  indices : ∃ indices : List Int, indices.Pairwise (· < ·) ∧
    indices.Perm (t.entries.map TableEntry.index) ∧ textsUnder "index" payload = indices.map intText
  entries : (textsUnder "admin-control-list" payload).length = t.entries.length
  length : textsUnder "admin-control-list-length" payload = [natText t.entries.length]

theorem portMarkup_isCanonical (h : t.Expresses denominator s) (interface : String) :
    IsCanonical t (portMarkup t interface) := by
  obtain ⟨hindex, hentry, hlength⟩ := dataUnder_portTags t interface
  rw [← tagsOf_portMarkup] at hindex hentry hlength
  refine ⟨?_, ⟨(byIndex t.entries).map TableEntry.index, ?_, (byIndex_perm _).map _, ?_⟩, ?_, hlength⟩
  · rw [portMarkup_text]
    exact (isElement_portTags t interface).element
  · exact List.pairwise_map.2 (pairwise_byIndex h.nodup)
  · rw [textsUnder, hindex, List.map_map]
    rfl
  · rw [textsUnder, hentry, List.length_map, (byIndex_perm _).length_eq]

end Legacy

/-! ## Schedules in another order -/

/-- Whether a schedule is representable does not depend on the order of its entries. -/
theorem Check.Representable.of_perm {denominator : Int} {s : Schedule} {entries : List GateEntry}
    (h : Representable denominator s) (hperm : entries.Perm s.entries) :
    Representable denominator { s with entries } where
  baseTime := h.baseTime
  cycleTime := h.cycleTime
  numerator := h.numerator
  indices e he := h.indices e (hperm.mem_iff.1 he)
  intervals e he := h.intervals e (hperm.mem_iff.1 he)
  nodup := (hperm.map _).nodup_iff.2 h.nodup

theorem Check.totalInterval_of_perm {entries entries' : List GateEntry} (h : entries.Perm entries') :
    totalInterval entries = totalInterval entries' := by
  induction h with
  | nil => rfl
  | cons e _ ih => exact congrArg (e.interval + ·) ih
  | swap e f rest => exact Int.add_left_comm f.interval e.interval (totalInterval rest)
  | trans _ _ ih ih' => exact ih.trans ih'

/-- What is odd about a schedule does not depend on the order of its entries. -/
theorem Check.warnings_of_perm {s : Schedule} {entries : List GateEntry} (h : entries.Perm s.entries) :
    (warnings { s with entries }).Perm (warnings s) := by
  have hempty : entries.isEmpty = s.entries.isEmpty := h.isEmpty_eq
  refine .append ?_ ?_
  · simp only [entryWarnings, hempty, h.length_eq]
    split
    · exact .refl _
    · exact (List.Perm.refl _).append (h.flatMap_right _)
  · simp only [coverageWarnings, hempty, totalInterval_of_perm h]
    exact .refl _

/-- Where a representable schedule can be told, so can the same schedule in another order. -/
theorem Plugin.Tells.of_perm {p : Plugin} {s : Schedule} {entries : List GateEntry} (h : p.Tells s)
    (hr : Check.Representable p.dialect.denominator s) (hperm : entries.Perm s.entries) :
    p.Tells { s with entries } := by
  refine ⟨?_, h.2⟩
  rw [Check.isTold_of_representable (hr.of_perm hperm), (Check.warnings_of_perm hperm).all_eq,
    ← Check.isTold_of_representable hr]
  exact h.1

/-- All states that any entry opens do not depend on the order of the entries. -/
theorem unionStates_of_perm {entries entries' : List GateEntry} (h : entries.Perm entries') :
    unionStates entries = unionStates entries' := by
  refine Nat.eq_of_testBit_eq fun i => Bool.eq_iff_iff.2 ?_
  simp only [testBit_unionStates, h.mem_iff]

/-- A schedule with its entries in another order has the same table, with its entries in another order. -/
theorem ofSchedule_of_perm {denominator : Int} {s : Schedule} {t : GateTable} {entries : List GateEntry}
    (h : GateTable.ofSchedule denominator .union s = .ok t) (hperm : entries.Perm s.entries) :
    ∃ xs : List TableEntry, xs.Perm t.entries ∧
      GateTable.ofSchedule denominator .union { s with entries } = .ok { t with entries := xs } := by
  obtain ⟨hr, n, hn, rfl⟩ := ofSchedule_eq_ok h
  obtain ⟨u, hu⟩ := ofSchedule_ok (hr.of_perm hperm) .union
  obtain ⟨-, m, hm, rfl⟩ := ofSchedule_eq_ok hu
  obtain rfl : n = m := Option.some.inj (hn.symm.trans hm)
  refine ⟨entries.map TableEntry.ofEntry, hperm.map _, ?_⟩
  rw [hu, Summary.of, Summary.of, unionStates_of_perm hperm]

/-! ## The main statement -/

namespace Plugin

variable {σ : Type}

/-- Whatever modules the legacy plugin is made to require, the tables that it maps to have a payload for
every target.  The payloads of two tables are the same exactly when the ports are and the tables differ in
the order of their entries alone; every payload is canonical; and a schedule with its entries in another
order has the same payload. -/
theorem legacy_payload_canonical (required required' : List SchemaModule) {t u : GateTable}
    (ht : ({ legacy with required } : Plugin).Produces σ t)
    (hu : ({ legacy with required := required' } : Plugin).Produces σ u) (target target' : Target) :
    let p : Plugin := { legacy with required }
    let q : Plugin := { legacy with required := required' }
    ∃ text text', p.payload (.table t) target = .ok text ∧ q.payload (.table u) target' = .ok text' ∧
      (text = text' ↔ target.interface = target'.interface ∧
        { t with entries := u.entries } = u ∧ t.entries.Perm u.entries) ∧
      Legacy.IsCanonical t text ∧
      ∀ (s : Schedule) (entries : List GateEntry) (j i : Journal σ), p.Maps j s t →
        entries.Perm s.entries →
          ∃ v, q.Maps i { s with entries } v ∧ q.payload (.table v) target = .ok text := by
  intro p q
  have htext := ht.isWritten (d := .legacy) rfl (by decide)
  have hutext := hu.isWritten (d := .legacy) rfl (by decide)
  obtain ⟨s, ht⟩ := ht.expresses (d := .legacy) rfl (by decide)
  obtain ⟨s', hu⟩ := hu.expresses (d := .legacy) rfl (by decide)
  refine ⟨_, _, if_pos htext, if_pos hutext, Legacy.portMarkup_eq_iff ht hu _ _,
    Legacy.portMarkup_isCanonical ht _, ?_⟩
  intro s entries j i hmaps hperm
  obtain ⟨htells, hs⟩ := (maps_iff (d := .legacy) rfl (by decide)).1 hmaps
  obtain ⟨xs, hxs, hv⟩ := ofSchedule_of_perm hs hperm
  obtain ⟨hexact, -⟩ := ofSchedule_expresses (by decide) hs
  obtain ⟨hexact', -⟩ := ofSchedule_expresses (by decide) hv
  have htells' : q.Tells { s with entries } := htells.of_perm (p := p) (ofSchedule_eq_ok hs).1 hperm
  have hvtext := isWritten_ofSchedule (by decide) Dialect.legacy.isWritten_denominator hv
  refine ⟨_, (maps_iff (d := .legacy) rfl (by decide)).2 ⟨htells', hv⟩,
    (if_pos hvtext).trans (congrArg Except.ok ?_)⟩
  exact (Legacy.portMarkup_eq_iff hexact' hexact _ _).2 ⟨rfl, rfl, hxs⟩

/-- Two entries in either order, for a port with brackets in its name. -/
theorem legacy_payload_canonical_either_order :
    let e : GateEntry := ⟨7, 400000, [1], some .setAndHoldMac, .null⟩
    let f : GateEntry := ⟨2, 600000, [], none, .null⟩
    let s : Schedule := ⟨"s", 1500000000, 1000000, .enabled, [e, f], none⟩
    let j : Journal Unit := ⟨[], [], ()⟩
    let target : Target := ⟨{ address := .str "192.0.2.1" }, .str "", "<sw0>", .str "a"⟩
    ∃ t u text, legacy.Maps j s t ∧ legacy.Maps j { s with entries := [f, e] } u ∧
      t.entries ≠ u.entries ∧ legacy.payload (.table t) target = .ok text ∧
      legacy.payload (.table u) target = .ok text ∧ Legacy.IsCanonical t text := by
  intro e f s j target
  obtain ⟨t, ht⟩ : ∃ t, legacy.Maps j s t := ⟨_, rfl⟩
  obtain ⟨text, text', htext, -, -, hcanonical, hperm⟩ := legacy_payload_canonical legacy.required
    legacy.required ⟨.schedule s, j, ht⟩ ⟨.schedule s, j, ht⟩ target target
  obtain ⟨u, hu, hsame⟩ := hperm s [f, e] j j ht (.swap _ _ _)
  refine ⟨t, u, text, ht, hu, ?_, htext, hsame, hcanonical⟩
  cases ht
  cases hu
  decide

end Plugin

end GateRollout
