import GateRollout.Proofs.Mapping.Registration
import GateRollout.Proofs.Text.Lower
import GateRollout.Service

/-!
# Registering protocols

Of the calls to register something for a protocol the first is heard, whatever the case of the name; the
others are refused and leave the registry as it is.  Only the empty name is never found: a backend under it is
listed all the same, and then the plugins of all protocols cannot be listed.
-/

namespace GateRollout

namespace Registry

variable {α : Type} {r : Registry α} {protocol key : String} {calls : List (String × α)}

/-- That something is registered for a protocol already. -/
def alreadyRegistered (protocol : String) : Failure :=
  .fault ⟨.wrongValue, s!"Backend for protocol '{Text.lower protocol}' already registered"⟩

theorem insert_of_taken (h : (r.find? (Text.lower protocol)).isSome = true) (a : α) :
    r.insert protocol a = .error (alreadyRegistered protocol) := if_pos h

theorem insert_of_free (h : r.find? (Text.lower protocol) = none) (a : α) :
    r.insert protocol a = .ok ⟨r.byProtocol ++ [(Text.lower protocol, a)]⟩ := by
  rw [insert, h]
  rfl

/-! ## One call -/

/-- The registry after a call to register, which leaves it as it was where it is refused. -/
def afterCall (r : Registry α) (call : String × α) : Registry α :=
  (r.insert call.1 call.2).toOption.getD r

theorem afterCall_of_taken {call : String × α} (h : (r.find? (Text.lower call.1)).isSome = true) :
    r.afterCall call = r := by
  rw [afterCall, insert_of_taken h]
  rfl

theorem afterCall_of_free {call : String × α} (h : r.find? (Text.lower call.1) = none) :
    r.afterCall call = ⟨r.byProtocol ++ [(Text.lower call.1, call.2)]⟩ := by
  rw [afterCall, insert_of_free h]
  rfl

/-- A call is heard where nothing is found under its name yet. -/
theorem find?_afterCall (r : Registry α) (call : String × α) (key : String) :
    (r.afterCall call).find? key =
      (r.find? key).or (if Text.lower call.1 = key then some call.2 else none) := by
  cases hfind : r.find? (Text.lower call.1) with
  | some a =>
    rw [afterCall_of_taken (by rw [hfind]; rfl)]
    by_cases hkey : Text.lower call.1 = key
    · rw [← hkey, hfind, Option.some_or]
    · rw [if_neg hkey, Option.or_none]
  | none =>
    rw [afterCall_of_free hfind, find?, find?, List.find?_append, Option.map_or]
    by_cases hkey : Text.lower call.1 = key
    · simp [hkey]
    · simp [hkey]

theorem nodup_afterCall (h : (r.byProtocol.map Prod.fst).Nodup) (call : String × α) :
    ((r.afterCall call).byProtocol.map Prod.fst).Nodup := by
  cases hfind : r.find? (Text.lower call.1) with
  | some a => rwa [afterCall_of_taken (by rw [hfind]; rfl)]
  | none =>
    have hnew : ∀ entry ∈ r.byProtocol, entry.1 ≠ Text.lower call.1 := by
      simpa [find?] using hfind
    rw [afterCall_of_free hfind, List.map_append, List.nodup_append]
    refine ⟨h, List.pairwise_singleton _ _, fun name hname other hother => ?_⟩
    obtain ⟨entry, hentry, rfl⟩ := List.mem_map.1 hname
    obtain rfl := List.mem_singleton.1 hother
    exact hnew entry hentry

/-! ## Many calls -/

/-- A fresh registry after some calls to register, in their order. -/
def after (calls : List (String × α)) : Registry α := calls.foldl afterCall empty

/-- What the first of some calls for a protocol registers. -/
def first? (calls : List (String × α)) (protocol : String) : Option α :=
  (calls.find? fun call => Text.lower call.1 == Text.lower protocol).map Prod.snd

theorem isSome_first?_iff :
    (first? calls protocol).isSome = true ↔ ∃ call ∈ calls, Text.lower call.1 = Text.lower protocol := by
  rw [first?, Option.isSome_map, List.find?_isSome]
  simp only [beq_iff_eq]

theorem find?_foldl (calls : List (String × α)) (r : Registry α) (key : String) :
    (calls.foldl afterCall r).find? key =
      (r.find? key).or ((calls.find? fun call => Text.lower call.1 == key).map Prod.snd) := by
  induction calls generalizing r with
  | nil => rw [List.foldl_nil, List.find?_nil, Option.map_none, Option.or_none]
  | cons call calls ih =>
    rw [List.foldl_cons, ih, find?_afterCall, Option.or_assoc]
    by_cases hkey : Text.lower call.1 = key
    · rw [if_pos hkey, List.find?_cons_of_pos (by simpa using hkey)]
      rfl
    · rw [if_neg hkey, List.find?_cons_of_neg (by simpa using hkey), Option.none_or]

theorem find?_after (calls : List (String × α)) (protocol : String) :
    (after calls).find? (Text.lower protocol) = first? calls protocol := find?_foldl calls empty _

/-- A call for a protocol that was heard of is refused, and what follows goes on as without it. -/
theorem after_of_taken {before : List (String × α)} {call : String × α}
    (h : (first? before call.1).isSome = true) (rest : List (String × α)) :
    (after before).insert call.1 call.2 = .error (alreadyRegistered call.1) ∧
      after (before ++ call :: rest) = after (before ++ rest) := by
  rw [← find?_after] at h
  refine ⟨insert_of_taken h _, ?_⟩
  rw [after, List.foldl_append, List.foldl_cons, ← after, afterCall_of_taken h, after, after,
    List.foldl_append]

theorem nodup_after (calls : List (String × α)) : ((after calls).byProtocol.map Prod.fst).Nodup := by
  have hfrom : ∀ r : Registry α, (r.byProtocol.map Prod.fst).Nodup →
      ((calls.foldl afterCall r).byProtocol.map Prod.fst).Nodup := by
    induction calls with
    | nil => exact fun r hr => hr
    | cons call calls ih => exact fun r hr => ih _ (nodup_afterCall hr call)
  exact hfrom empty List.nodup_nil

theorem mem_protocols : key ∈ r.protocols ↔ (r.find? key).isSome = true := by
  rw [protocols, List.mem_mergeSort, List.mem_map, find?, Option.isSome_map, List.find?_isSome]
  simp only [beq_iff_eq]

/-- The protocols that are listed are those of the calls, in lower case. -/
theorem mem_protocols_after (calls : List (String × α)) :
    key ∈ (after calls).protocols ↔ ∃ call ∈ calls, Text.lower call.1 = key := by
  have hempty : (empty : Registry α).find? key = none := rfl
  rw [mem_protocols, after, find?_foldl, hempty, Option.none_or, Option.isSome_map, List.find?_isSome]
  simp only [beq_iff_eq]

theorem pairwise_protocols_after (calls : List (String × α)) :
    (after calls).protocols.Pairwise (· < ·) := pairwise_lt_mergeSort (nodup_after calls)

/-! ## Answers -/

/-- A protocol is looked up by its name in lower case; nothing is found under the empty name. -/
theorem get_after (calls : List (String × α)) (protocol : String) :
    (after calls).get (.str protocol) = .ok (if protocol = "" then none else first? calls protocol) := by
  rw [get]
  by_cases hempty : protocol = ""
  · subst hempty
    rfl
  · have hgiven : (Value.str protocol).isGiven = true := by simpa [Value.isGiven] using hempty
    rw [hgiven, if_neg hempty, ← find?_after]
    rfl

theorem get_after_of_ne (calls : List (String × α)) (h : protocol ≠ "") :
    (after calls).get (.str protocol) = .ok (first? calls protocol) := by
  rw [get_after, if_neg h]

theorem contains_after (calls : List (String × α)) (protocol : String) :
    (after calls).contains (.str protocol) =
      .ok (if protocol = "" then false else (first? calls protocol).isSome) := by
  rw [contains, get_after]
  by_cases hempty : protocol = ""
  · simp [hempty]
  · simp [hempty]

/-- A name is listed where it is in lower case and the first call for it is found. -/
theorem mem_protocols_iff_first? (hascii : ∀ call ∈ calls, Text.IsAscii call.1) :
    key ∈ (after calls).protocols ↔ Text.lower key = key ∧ (first? calls key).isSome = true := by
  rw [mem_protocols_after, isSome_first?_iff]
  constructor
  · rintro ⟨call, hcall, rfl⟩
    have hlower := Text.lower_lower_of_ascii (hascii call hcall)
    exact ⟨hlower, call, hcall, hlower.symm⟩
  · rintro ⟨hlower, call, hcall, hname⟩
    exact ⟨call, hcall, hname.trans hlower⟩

theorem quiet_register {σ : Type} (r : Registry α) (protocol : String) (a : α) :
    (r.register protocol a : Action σ (Registry α)).Quiet (r.insert protocol a) := by
  rw [register]
  cases r.insert protocol a with
  | ok r' => exact (Action.quiet_ofExcept _).bind_ok ((Action.quiet_log _ _).bind_ok (Action.quiet_pure _))
  | error e => exact (Action.quiet_ofExcept _).bind_error

/-- After any calls with ASCII names a registry answers with what the first call for a protocol registered, in
whatever case the name is given, and lists the names in lower case, each once and in order.  A call for a
protocol that was heard of is refused, and all later answers are those that there would be without it.  The
names that are listed are those that are found, but for the empty one: it is listed where some call gives it,
and never found. -/
theorem first_call_is_heard (hascii : ∀ call ∈ calls, Text.IsAscii call.1) :
    (∀ p, p ≠ "" → (after calls).get (.str p) = .ok (first? calls p)) ∧
    (∀ before call rest, calls = before ++ call :: rest → (first? before call.1).isSome = true →
      (∀ σ : Type, ((after before).register call.1 call.2 : Action σ (Registry α)).Quiet
        (.error (alreadyRegistered call.1))) ∧
      after calls = after (before ++ rest)) ∧
    (after calls).protocols.Pairwise (· < ·) ∧
    (∀ p, p ∈ (after calls).protocols ∧ p ≠ "" ↔
      Text.lower p = p ∧ (∃ a, (after calls).get (.str p) = .ok (some a)) ∧
        (after calls).contains (.str p) = .ok true) ∧
    (after calls).get (.str "") = .ok none ∧ (after calls).contains (.str "") = .ok false ∧
    ("" ∈ (after calls).protocols ↔ ∃ call ∈ calls, call.1 = "") := by
  refine ⟨fun p hp => get_after_of_ne calls hp, ?_, pairwise_protocols_after calls, fun p => ?_,
    get_after calls "", contains_after calls "", ?_⟩
  · rintro before call rest rfl htaken
    obtain ⟨hrefused, hafter⟩ := after_of_taken htaken rest
    exact ⟨fun σ => hrefused ▸ quiet_register (after before) call.1 call.2, hafter⟩
  · rw [mem_protocols_iff_first? hascii, get_after, contains_after, and_assoc]
    refine and_congr_right fun _ => ?_
    by_cases hp : p = ""
    · simp [hp]
    · simp [hp, Option.isSome_iff_exists]
  · rw [mem_protocols_after]
    simp only [Text.lower_eq_empty_iff]

/-- Two protocols, one of which is asked for twice in different cases. -/
theorem first_call_is_heard_of_two :
    let calls : List (String × Nat) := [("SNMP", 1), ("netconf", 2), ("NetConf", 3)]
    (∀ call ∈ calls, Text.IsAscii call.1) ∧
      (after calls).get (.str "NETCONF") = .ok (some 2) ∧ (after calls).get (.str "gnmi") = .ok none ∧
      after calls = after [("SNMP", 1), ("netconf", 2)] ∧
      (after calls).protocols.Pairwise (· < ·) ∧ "snmp" ∈ (after calls).protocols := by
  intro calls
  have hascii : ∀ call ∈ calls, Text.IsAscii call.1 := by decide
  obtain ⟨hget, hrefused, hsorted, hlisted, -⟩ := first_call_is_heard hascii
  refine ⟨hascii, hget "NETCONF" (by decide), hget "gnmi" (by decide),
    (hrefused [("SNMP", 1), ("netconf", 2)] ("NetConf", 3) [] rfl (by decide)).2, hsorted, ?_⟩
  refine ((hlisted "snmp").2 ⟨by decide, ⟨1, hget "snmp" (by decide)⟩, ?_⟩).1
  exact contains_after calls "snmp"

/-- What is registered under the empty name is not found, though the call for it is the first. -/
theorem empty_name_is_not_found :
    ¬∀ calls : List (String × Nat), (∀ call ∈ calls, Text.IsAscii call.1) →
      ∀ p, (after calls).get (.str p) = .ok (first? calls p) := by
  intro h
  have hempty := h [("", 1)] (by decide) ""
  rw [get_after] at hempty
  cases hempty

end Registry

/-- The plugins of all protocols can be listed where no backend is registered under the empty name. -/
theorem Service.features_ok_iff {σ : Type} {svc : Service σ} {calls : List (String × Backend)}
    (hascii : ∀ call ∈ calls, Text.IsAscii call.1) (h : svc.engine.registry = Registry.after calls) :
    (∃ listed, svc.features = .ok listed) ↔ ∀ call ∈ calls, call.1 ≠ "" := by
  rw [features, h]
  constructor
  · rintro ⟨listed, hlisted⟩ call hcall hempty
    have hmem : "" ∈ (Registry.after calls).protocols :=
      (Registry.mem_protocols_after calls).2 ⟨call, hcall, by rw [hempty]; rfl⟩
    obtain ⟨line, hline⟩ := ok_of_mapM_eq_ok hlisted "" hmem
    rw [Registry.get_after] at hline
    cases hline
  · refine fun hnames => mapM_ok fun p hp => ?_
    obtain ⟨call, hcall, hname⟩ := (Registry.mem_protocols_after calls).1 hp
    have hne : p ≠ "" := by
      rintro rfl
      exact hnames call hcall (Text.lower_eq_empty_iff.1 hname)
    obtain ⟨backend, hbackend⟩ :=
      Option.isSome_iff_exists.1 ((Registry.mem_protocols_iff_first? hascii).1 hp).2
    rw [Registry.get_after_of_ne calls hne, hbackend]
    exact ⟨_, rfl⟩

end GateRollout
