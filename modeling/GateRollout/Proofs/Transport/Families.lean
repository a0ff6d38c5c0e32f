import GateRollout.Failure

/-!
# Families of faults

A fault is told by its kind and by the more general kinds that this one belongs to.  Opening a line is
tried again after the faults of some families, and those of others are faults of the transport; both are
given here by their most general kinds.  Whatever is tried again is a fault of the transport.
-/

namespace GateRollout

namespace FaultKind

/-- A kind and the more general ones by which its faults are told, from the most special. -/
def lineage : FaultKind → List FaultKind
  | connectionRefused => [connectionRefused, system .osError]
  | connectionReset => [connectionReset, system .osError]
  | timedOut => [timedOut, system .osError]
  | system name => [system name, system .osError]
  | sshAuthentication => [sshAuthentication, ssh]
  | sessionTimeout => [sessionTimeout, session]
  | sessionTransport => [sessionTransport, session]
  | sessionSsh => [sessionSsh, sessionTransport, session]
  | sessionAuthentication => [sessionAuthentication, sessionTransport, session]
  | undecodable => [undecodable, wrongValue]
  | malformedJson => [malformedJson, wrongValue]
  | special name general => special name general :: general.lineage
  | k => [k]

/-- A kind belongs to one of some families. -/
def IsOf (k : FaultKind) (families : List FaultKind) : Prop := ∃ b ∈ families, b ∈ k.lineage

instance (k : FaultKind) (families : List FaultKind) : Decidable (k.IsOf families) :=
  inferInstanceAs (Decidable (∃ b ∈ families, b ∈ k.lineage))

/-- The families after whose faults opening a line is tried again. -/
def retriedFamilies : List FaultKind :=
  [connectionRefused, connectionReset, timedOut, endOfInput, sessionSsh, ssh]

/-- The families of faults of the transport. -/
def transportFamilies : List FaultKind := [session, ssh, system .osError, endOfInput]

/-- The families of faults that tell of bad credentials: those of the session library and those of the
layer below it. -/
def authenticationFamilies : List FaultKind := [sessionAuthentication, sshAuthentication]

/-! ## Lineages -/

/-- What a special kind is not itself, it is by its general kind. -/
theorem isOf_special_iff {name : ClassName} {general : FaultKind} {families : List FaultKind}
    (h : special name general ∉ families) : (special name general).IsOf families ↔ general.IsOf families := by
  simp only [IsOf, lineage, List.mem_cons]
  constructor
  · rintro ⟨b, hb, rfl | hlineage⟩
    · exact absurd hb h
    · exact ⟨b, hb, hlineage⟩
  · rintro ⟨b, hb, hlineage⟩
    exact ⟨b, hb, .inr hlineage⟩

/-- The lineage of a more general kind is part of that of a kind. -/
theorem lineage_subset {k b : FaultKind} (h : b ∈ k.lineage) : b.lineage ⊆ k.lineage := by
  induction k with
  | special name general ih =>
    rcases List.mem_cons.1 h with rfl | h
    · exact List.Subset.refl _
    · exact List.subset_cons_of_subset _ (ih h)
  | _ =>
    simp only [lineage, List.mem_cons, List.not_mem_nil, or_false] at h
    rcases h with rfl | rfl | rfl <;> simp [lineage]

/-- Families may be replaced by wider ones. -/
theorem IsOf.mono {k : FaultKind} {families wider : List FaultKind} (h : k.IsOf families)
    (hwider : ∀ b ∈ families, b.IsOf wider) : k.IsOf wider := by
  obtain ⟨b, hb, hlineage⟩ := h
  obtain ⟨c, hc, hc'⟩ := hwider b hb
  exact ⟨c, hc, lineage_subset hlineage hc'⟩

/-! ## The two families -/

theorem isTransient_iff {k : FaultKind} : k.isTransient = true ↔ k.IsOf retriedFamilies := by
  induction k with
  | special name general ih =>
    rw [isTransient, ih, isOf_special_iff (by simp [retriedFamilies])]
  | _ => simp [isTransient, IsOf, retriedFamilies, lineage]

theorem isTransport_iff {k : FaultKind} : k.isTransport = true ↔ k.IsOf transportFamilies := by
  induction k with
  | special name general ih =>
    rw [isTransport, ih, isOf_special_iff (by simp [transportFamilies])]
  | _ => simp [isTransport, IsOf, transportFamilies, lineage]

theorem IsOf.transport {k : FaultKind} (h : k.IsOf retriedFamilies) : k.IsOf transportFamilies :=
  h.mono (by decide)

/-- A fault of credentials belongs to the transport, from whichever layer it comes. -/
theorem IsOf.transport_of_authentication {k : FaultKind} (h : k.IsOf authenticationFamilies) :
    k.IsOf transportFamilies :=
  h.mono (by decide)

/-- Bad credentials that the session library tells of are no reason to try again. -/
theorem IsOf.not_retried {k : FaultKind} (h : k.IsOf [sessionAuthentication]) : ¬k.IsOf retriedFamilies := by
  induction k with
  | special name general ih =>
    rw [isOf_special_iff (by simp)] at h
    rw [isOf_special_iff (by simp [retriedFamilies])]
    exact ih h
  | _ => simp_all [IsOf, retriedFamilies, lineage]

theorem IsOf.authentication_of_ssh {k : FaultKind} (h : k.IsOf [sshAuthentication]) :
    k.IsOf authenticationFamilies :=
  h.mono (by decide)

/-- Bad credentials that the layer below tells of are tried again like every fault of that layer. -/
theorem IsOf.retried_of_ssh {k : FaultKind} (h : k.IsOf [sshAuthentication]) : k.IsOf retriedFamilies :=
  h.mono (by decide)

end FaultKind

namespace Failure

open FaultKind

/-- A failure is a fault of one of some families. -/
def IsOf (f : Failure) (families : List FaultKind) : Prop := ∃ g, f = .fault g ∧ g.kind.IsOf families

theorem isOf_fault {g : Fault} {families : List FaultKind} :
    (fault g).IsOf families ↔ g.kind.IsOf families :=
  ⟨fun ⟨_, hg, h⟩ => fault.inj hg ▸ h, fun h => ⟨g, rfl, h⟩⟩

theorem not_isOf_error {e : RolloutError} {families : List FaultKind} : ¬(error e).IsOf families :=
  fun ⟨_, h, _⟩ => nomatch h

theorem isTransient_iff {f : Failure} : f.isTransient = true ↔ f.IsOf retriedFamilies := by
  cases f with
  | error e => simp [isTransient, not_isOf_error]
  | fault g => rw [isTransient, FaultKind.isTransient_iff, isOf_fault]

theorem isTransportFault_iff {f : Failure} : f.isTransportFault = true ↔ f.IsOf transportFamilies := by
  cases f with
  | error e => simp [isTransportFault, not_isOf_error]
  | fault g => rw [isTransportFault, FaultKind.isTransport_iff, isOf_fault]

theorem IsOf.imp {f : Failure} {families wider : List FaultKind} (h : f.IsOf families)
    (hwider : ∀ {k : FaultKind}, k.IsOf families → k.IsOf wider) : f.IsOf wider := by
  obtain ⟨g, rfl, hg⟩ := h
  exact ⟨g, rfl, hwider hg⟩

/-- Bad credentials are told of by the session library or by the layer below it. -/
theorem IsOf.session_or_ssh {f : Failure} (h : f.IsOf authenticationFamilies) :
    f.IsOf [sessionAuthentication] ∨ f.IsOf [sshAuthentication] := by
  obtain ⟨g, rfl, b, hb, hlineage⟩ := h
  simp only [authenticationFamilies, List.mem_cons, List.not_mem_nil, or_false] at hb
  rcases hb with rfl | rfl
  · exact .inl ⟨g, rfl, _, List.mem_cons_self, hlineage⟩
  · exact .inr ⟨g, rfl, _, List.mem_cons_self, hlineage⟩

theorem IsOf.not_retried {f : Failure} (h : f.IsOf [sessionAuthentication]) : ¬f.IsOf retriedFamilies := by
  obtain ⟨g, rfl, hg⟩ := h
  exact fun hretried => hg.not_retried (isOf_fault.1 hretried)

end Failure

end GateRollout
