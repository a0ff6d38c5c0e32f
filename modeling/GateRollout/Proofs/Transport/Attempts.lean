import GateRollout.Proofs.Transport.Discipline
import GateRollout.Proofs.Transport.Families
import GateRollout.Proofs.Transport.Waits

/-!
# Attempts to connect

How often and after which waits opening a line is attempted is a matter of the outcomes alone: the
attempts go on while they fail in a way that passes and the policy allows another one, and the outcome of
the last decides what comes of connecting.  Bad credentials are no reason to try again where the session
library tells of them; where the layer below it does, they are taken for any other fault of that layer.
-/

namespace GateRollout.Netconf

variable {σ α : Type}

/-! ## Outcomes and traces -/

/-- What is done to open a line: an attempt, or a wait for the next one. -/
inductive Step where
  | dialed (request : Request)
  | slept (t : Duration)

/-- Whether a step is an attempt. -/
def Step.isDial : Step → Bool
  | dialed _ => true
  | slept _ => false

/-- The layer below has an outcome for every attempt to open a line, counted from 1, and waits without
failing; a trace tells what is done. -/
structure Dialer.Answers (d : Dialer σ) (outcomes : Nat → Except Failure (Channel σ))
    (steps : σ → List Step) : Prop where
  dials : ∀ r j, ∃ j', (d.dial r).exec j = (outcomes ((steps j.world).countP Step.isDial + 1), j') ∧
    steps j'.world = steps j.world ++ [.dialed r]
  sleeps : ∀ t j, ∃ j', (d.sleep t).exec j = (.ok (), j') ∧ steps j'.world = steps j.world ++ [.slept t]

/-- The layer below that does nothing but have outcomes and note what is done. -/
def Dialer.answering (outcomes : Nat → Except Failure (Channel (List Step))) : Dialer (List Step) where
  dial r := do
    let steps ← Action.world
    Action.modifyWorld (· ++ [.dialed r])
    Action.ofExcept (outcomes (steps.countP Step.isDial + 1))
  sleep t := Action.modifyWorld (· ++ [.slept t])
  warning _ f := f.text

theorem Dialer.answering_answers (outcomes : Nat → Except Failure (Channel (List Step))) :
    (answering outcomes).Answers outcomes id where
  dials r j := ⟨{ j with world := j.world ++ [.dialed r] }, rfl, rfl⟩
  sleeps t j := ⟨{ j with world := j.world ++ [.slept t] }, rfl, rfl⟩

/-- Attempts with waits after them. -/
def spaced (r : Request) (waits : List Duration) : List Step :=
  waits.flatMap fun t => [.dialed r, .slept t]

theorem spaced_concat (r : Request) (waits : List Duration) (t : Duration) :
    spaced r (waits ++ [t]) = spaced r waits ++ [.dialed r] ++ [.slept t] := by
  simp [spaced]

theorem countP_spaced (r : Request) (waits : List Duration) :
    (spaced r waits).countP Step.isDial = waits.length := by
  induction waits with
  | nil => rfl
  | cons t waits ih =>
    rw [spaced, List.flatMap_cons, List.countP_append]
    change 1 + (spaced r waits).countP Step.isDial = _
    rw [ih, List.length_cons, Nat.add_comm]

/-- A series of attempts with waits between them. -/
def series (r : Request) (waits : List Duration) : List Step := spaced r waits ++ [.dialed r]

theorem countP_series (r : Request) (waits : List Duration) :
    (series r waits).countP Step.isDial = waits.length + 1 := by
  rw [series, List.countP_append, countP_spaced]
  rfl

/-- An attempt fails in a way that passes. -/
def Passes (x : Except Failure α) : Prop := ∃ f, x = .error f ∧ f.IsOf FaultKind.retriedFamilies

/-- Of `n` attempts at most, the `k`th is the last: all before it fail in a way that passes, and it does
not, or none is left. -/
structure EndsAt (outcomes : Nat → Except Failure α) (n k : Nat) : Prop where
  pos : 1 ≤ k
  le : k ≤ n
  before : ∀ i, 1 ≤ i → i < k → Passes (outcomes i)
  final : Passes (outcomes k) → k = n

theorem EndsAt.unique {outcomes : Nat → Except Failure α} {n k k' : Nat} (h : EndsAt outcomes n k)
    (h' : EndsAt outcomes n k') : k' = k := by
  rcases Nat.lt_trichotomy k k' with hlt | heq | hlt
  · have hn := h.final (h'.before k h.pos hlt)
    have hle := h'.le
    omega
  · exact heq.symm
  · have hn := h'.final (h.before k' h'.pos hlt)
    have hle := h.le
    omega

/-! ## Series of attempts -/

section

variable {d : Dialer σ} {outcomes : Nat → Except Failure (Channel σ)} {steps : σ → List Step}

/-- A wait is noted as such; its warning is written aside. -/
theorem Dialer.Answers.exec_after (hd : d.Answers outcomes steps) (t : Duration) (f : Failure)
    (j : Journal σ) :
    ∃ j', (d.toPause.after t f).exec j = (.ok (), j') ∧ steps j'.world = steps j.world ++ [.slept t] := by
  rw [Backoff.Pause.after, Action.exec_bind_ok (Action.exec_logAside _ _ j)]
  exact hd.sleeps t _

/-- The attempts from the one after the `k`th on: there are as many as the outcomes and the policy make
it, with the waits of the policy between them. -/
theorem Dialer.Answers.exec_attemptFrom (hd : d.Answers outcomes steps) (b : Backoff) (r : Request)
    (more k : Nat) {j : Journal σ} (hj : steps j.world = spaced r (b.waits k)) :
    ∃ m j', (b.attemptFrom d.toPause (d.dial r) more (k + 1)).exec j = (outcomes m, j') ∧
      steps j'.world = series r (b.waits (m - 1)) ∧ k < m ∧ m ≤ k + 1 + more ∧
      (∀ i, k < i → i < m → Passes (outcomes i)) ∧ (Passes (outcomes m) → m = k + 1 + more) := by
  induction more generalizing k j with
  | zero =>
    obtain ⟨j', hexec, hsteps⟩ := hd.dials r j
    rw [hj, countP_spaced, b.length_waits] at hexec
    exact ⟨k + 1, j', hexec, by rw [hsteps, hj]; rfl, by omega, by omega, by omega, fun _ => rfl⟩
  | succ more ih =>
    obtain ⟨j₁, hexec, hsteps⟩ := hd.dials r j
    rw [hj, countP_spaced, b.length_waits] at hexec
    rw [hj] at hsteps
    by_cases hpasses : Passes (outcomes (k + 1))
    · obtain ⟨f, hf, hretried⟩ := id hpasses
      rw [hf] at hexec
      rw [exec_attemptFrom_passing hexec (Failure.isTransient_iff.2 hretried)]
      obtain ⟨j₂, hsleep, hsteps₂⟩ := hd.exec_after (b.waitAfter (k + 1)) f j₁
      rw [hsteps, ← spaced_concat, ← b.waits_succ] at hsteps₂
      obtain ⟨m, j', hrest, hseries, hlt, hle, hbefore, hfinal⟩ := ih (k + 1) hsteps₂
      rw [show k + 1 + 1 + more = k + 1 + (more + 1) by omega] at hle hfinal
      refine ⟨m, j', by rw [Action.exec_bind_ok hsleep, hrest], hseries, by omega, hle, fun i hi him => ?_, hfinal⟩
      rcases Nat.eq_or_lt_of_le hi with rfl | hi
      · exact hpasses
      · exact hbefore i hi him
    · refine ⟨k + 1, j₁, ?_, by rw [hsteps]; rfl, by omega, by omega, by omega, fun h => absurd h hpasses⟩
      cases hk : outcomes (k + 1) with
      | ok c =>
        rw [hk] at hexec
        exact exec_attemptFrom_ok hexec more _
      | error f =>
        rw [hk] at hexec
        refine exec_attemptFrom_forGood hexec ?_ more _
        rw [Bool.eq_false_iff, ne_eq, Failure.isTransient_iff]
        exact fun h => hpasses ⟨f, hk, h⟩

end

/-! ## What connecting comes to -/

/-- What the outcome of the last attempt makes of connecting: a session on the line that it opened, an
error of the transport that tells of the device, or the failure as it is. -/
inductive Concludes (s : Settings) (target : Target) :
    Except Failure (Channel σ) → Except Failure (Link σ) → Prop
  | session (c : Channel σ) : Concludes s target (.ok c) (.ok ⟨c, target.management.address, s.rpcTimeout⟩)
  | reported {f : Failure} (h : f.IsOf FaultKind.transportFamilies) :
      Concludes s target (.error f) (.error (.error
        { kind := .transport
          message := s!"Connection to {target.management.address.text}:{target.management.port.text} failed: {f.text}"
          target := some target.management.address.text }))
  | asItIs {f : Failure} (h : ¬f.IsOf FaultKind.transportFamilies) : Concludes s target (.error f) (.error f)

section

variable {d : Dialer σ} {outcomes : Nat → Except Failure (Channel σ)} {steps : σ → List Step}
  {s : Settings} {b : Backoff} {target : Target}

theorem concludes (s : Settings) (ht : HasTexts target.management) (x : Except Failure (Channel σ)) :
    Concludes s target x
      ((x.mapError (surfaced target.management.address s!"Connection to {place target.management}")).map
        fun c => ⟨c, target.management.address, s.rpcTimeout⟩) := by
  cases x with
  | ok c => exact .session c
  | error f =>
    change Concludes s target _ (.error (surfaced _ _ f))
    rw [surfaced, transportError, if_pos ht.address]
    split
    case isTrue h => exact .reported (Failure.isTransportFault_iff.1 h)
    case isFalse h => exact .asItIs (mt Failure.isTransportFault_iff.2 h)

theorem Dialer.Answers.exec_connect (hd : d.Answers outcomes steps) (hb : Backoff.ofSettings s = .ok b)
    (target : Target) (ht : HasTexts target.management) {j : Journal σ} (hj : steps j.world = []) :
    ∃ k x j', (connect d s target).exec j = (x, j') ∧ EndsAt outcomes (max 1 b.attempts) k ∧
      steps j'.world = series (requestFor s target) (b.waits (k - 1)) ∧ Concludes s target (outcomes k) x := by
  obtain ⟨j₁, hworld, hconnect⟩ := Netconf.exec_connect d hb ht j
  obtain ⟨k, j₂, hattempt, hseries, hpos, hle, hbefore, hfinal⟩ :=
    hd.exec_attemptFrom b (requestFor s target) (b.attempts - 1) 0 (j := j₁) (by rw [hworld, hj]; rfl)
  have hmax : 0 + 1 + (b.attempts - 1) = max 1 b.attempts := by omega
  rw [hmax] at hle hfinal
  obtain ⟨j', hworld', hexec⟩ := hconnect _ j₂ hattempt
  exact ⟨k, _, j', hexec, ⟨hpos, hle, hbefore, hfinal⟩, by rw [hworld', hseries], concludes s ht _⟩

/-- With `n` attempts at most, the attempts end with the first that opens a line or fails in a way that does
not pass, or with the `n`th.  The waits between them double from the least wait up to the greatest, so
that none is shorter than one before it or longer than the greatest.  The outcome of the last attempt is
what connecting comes to, and every failure that passes is one of the transport. -/
theorem connect_attempts (hd : d.Answers outcomes steps) {n : Nat} (hpos : 1 ≤ n)
    (hn : s.connectRetries.fraction? = some ((n : Int), 1)) {least greatest : Duration}
    (hleast : Duration.IsValue s.retryMinWait least) (hgreatest : Duration.IsValue s.retryMaxWait greatest)
    (hle : least ≤ greatest) (target : Target) (ht : HasTexts target.management) {j : Journal σ}
    (hj : steps j.world = []) :
    (∃ k x j' waits, (connect d s target).exec j = (x, j') ∧ EndsAt outcomes n k ∧
      Concludes s target (outcomes k) x ∧ steps j'.world = series (requestFor s target) waits ∧
      (steps j'.world).countP Step.isDial = k ∧
      waits = (List.range (k - 1)).map (fun i => ((least.double i).min greatest).max least) ∧
      waits.Pairwise (· ≤ ·) ∧ ∀ t ∈ waits, t ≤ greatest) ∧
    ∀ f : Failure, f.IsOf FaultKind.retriedFamilies → f.IsOf FaultKind.transportFamilies := by
  refine ⟨?_, fun f h => h.imp FaultKind.IsOf.transport⟩
  obtain ⟨k, x, j', hexec, hends, hseries, hconcludes⟩ :=
    hd.exec_connect (Backoff.ofSettings_eq hn hleast hgreatest) target ht hj
  rw [Nat.max_eq_right hpos] at hends
  refine ⟨k, x, j', _, hexec, hends, hconcludes, hseries, ?_, rfl, ?_, ?_⟩
  · have hk := hends.pos
    rw [hseries, countP_series, Backoff.length_waits]
    omega
  · exact Backoff.pairwise_waits hleast.nonneg (k - 1)
  · exact fun t => Backoff.le_of_mem_waits (b := ⟨n, least, greatest⟩) hle

/-- A device that refuses three times and then answers what is no data, with five attempts and one to three
seconds between them. -/
theorem connect_attempts_of_refusals :
    let s : Settings := { connectRetries := .int 5, retryMinWait := .int 1, retryMaxWait := .int 3 }
    let outcomes : Nat → Except Failure (Channel (List Step)) := fun i =>
      .error (.fault ⟨if i < 4 then .connectionRefused else .wrongValue, ""⟩)
    let target : Target := ⟨{ address := .str "192.0.2.1" }, .null, "p1", .str "sw"⟩
    ∃ j', (connect (.answering outcomes) s target).exec ⟨[], [], []⟩ =
        (.error (.fault ⟨.wrongValue, ""⟩), j') ∧
      j'.world = series (requestFor s target) [.seconds 1, .seconds 2, .seconds 3] := by
  intro s outcomes target
  have hfour : outcomes 4 = .error (.fault ⟨.wrongValue, ""⟩) := rfl
  have hends : EndsAt outcomes 5 4 := by
    refine ⟨by omega, by omega, fun i _ hi => ?_, fun h => ?_⟩
    · have hrefused : outcomes i = .error (.fault ⟨.connectionRefused, ""⟩) := by simp [outcomes, hi]
      exact ⟨_, hrefused, Failure.isTransient_iff.1 rfl⟩
    · obtain ⟨f, hf, hretried⟩ := h
      obtain rfl := Except.error.inj (hfour.symm.trans hf)
      cases Failure.isTransient_iff.2 hretried
  have hone : Duration.IsValue s.retryMinWait (.seconds 1) := .seconds (n := 1) (d := 1) rfl (by decide)
  have hthree : Duration.IsValue s.retryMaxWait (.seconds 3) := .seconds (n := 3) (d := 1) rfl (by decide)
  obtain ⟨k, x, j', waits, hexec, hends', hconcludes, hseries, -, hwaits, -, -⟩ :=
    (connect_attempts (Dialer.answering_answers outcomes) (n := 5) (by decide) rfl hone hthree (by simp) target
      (hasTexts_of_address _) (j := ⟨[], [], []⟩) rfl).1
  obtain rfl := hends.unique hends'
  have hlist : waits = [.seconds 1, .seconds 2, .seconds 3] := by
    rw [hwaits]
    norm_num [List.range_succ, Duration.double]
  refine ⟨j', ?_, hlist ▸ hseries⟩
  rw [hfour] at hconcludes
  cases hconcludes with
  | reported h => cases Failure.isTransportFault_iff.2 h
  | asItIs _ => exact hexec

/-! ## Bad credentials -/

theorem Concludes.reported_of_error {target : Target} {f : Failure} {x : Except Failure (Link σ)}
    (h : Concludes s target (.error f : Except Failure (Channel σ)) x)
    (hf : f.IsOf FaultKind.transportFamilies) :
    ∃ e : RolloutError, x = .error (.error e) ∧ e.kind = .transport ∧
      e.target = some target.management.address.text := by
  cases h with
  | reported _ => exact ⟨_, rfl, rfl, rfl⟩
  | asItIs h => exact absurd hf h

/-- Of the attempts that are made, one that fails for bad credentials is the last, and thus followed by no
wait, exactly when the session library tells of them or no attempt is left.  Then connecting fails with an
error of the transport that tells of the device.  Bad credentials that the layer below tells of are
tried again. -/
theorem authentication_last_iff (hd : d.Answers outcomes steps) (hb : Backoff.ofSettings s = .ok b)
    (target : Target) (ht : HasTexts target.management) {j : Journal σ} (hj : steps j.world = []) :
    ∃ k x j', (connect d s target).exec j = (x, j') ∧ 1 ≤ k ∧ k ≤ max 1 b.attempts ∧
      steps j'.world = series (requestFor s target) (b.waits (k - 1)) ∧
      ∀ i f, 1 ≤ i → i ≤ k → outcomes i = .error f → f.IsOf FaultKind.authenticationFamilies →
        (i = k ↔ f.IsOf [.sessionAuthentication] ∨ i = max 1 b.attempts) ∧
        (i = k → ∃ e : RolloutError, x = .error (.error e) ∧ e.kind = .transport ∧
          e.target = some target.management.address.text) := by
  obtain ⟨k, x, j', hexec, hends, hseries, hconcludes⟩ := hd.exec_connect hb target ht hj
  refine ⟨k, x, j', hexec, hends.pos, hends.le, hseries, fun i f hi hik hf hauthentication => ⟨⟨?_, ?_⟩, ?_⟩⟩
  · rintro rfl
    rcases hauthentication.session_or_ssh with hsession | hssh
    · exact .inl hsession
    · exact .inr (hends.final ⟨f, hf, hssh.imp FaultKind.IsOf.retried_of_ssh⟩)
  · rintro (hsession | rfl)
    · refine Nat.le_antisymm hik (Nat.not_lt.1 fun hlt => ?_)
      obtain ⟨f', hf', hretried⟩ := hends.before i hi hlt
      obtain rfl := Except.error.inj (hf.symm.trans hf')
      exact hsession.not_retried hretried
    · exact Nat.le_antisymm hik hends.le
  · rintro rfl
    rw [hf] at hconcludes
    exact hconcludes.reported_of_error (hauthentication.imp FaultKind.IsOf.transport_of_authentication)

end

/-- A device whose lower layer tells of bad credentials once, and whose session library does so then, in a
special way. -/
theorem authentication_last_of_both :
    let outcomes : Nat → Except Failure (Channel (List Step)) := fun i =>
      .error (.fault ⟨if i = 1 then .sshAuthentication else .special { text := "BadKey" } .sessionAuthentication, ""⟩)
    let target : Target := ⟨{ address := .str "192.0.2.1" }, .null, "p1", .str "sw"⟩
    ∃ e j', (connect (.answering outcomes) {} target).exec ⟨[], [], []⟩ = (.error (.error e), j') ∧
      e.kind = .transport ∧ e.target = some "192.0.2.1" ∧
      j'.world = series (requestFor {} target) [.seconds 1] := by
  intro outcomes target
  obtain ⟨k, x, j', hexec, hpos, -, hseries, hlast⟩ :=
    authentication_last_iff (Dialer.answering_answers outcomes) (s := {})
      (b := ⟨3, .seconds 1, .seconds 10⟩) rfl target
      (hasTexts_of_address _) (j := ⟨[], [], []⟩) rfl
  have hssh : ¬Failure.IsOf (.fault ⟨.sshAuthentication, ""⟩) [.sessionAuthentication] :=
    mt Failure.isOf_fault.1 (by decide)
  have hsession : Failure.IsOf (.fault ⟨.special { text := "BadKey" } .sessionAuthentication, ""⟩)
      [.sessionAuthentication] := Failure.isOf_fault.2 (by decide)
  have hauthentication : ∀ i f, outcomes i = .error f → f.IsOf FaultKind.authenticationFamilies := by
    rintro i _ ⟨⟩
    refine Failure.isOf_fault.2 ?_
    split <;> decide
  have hne : 1 ≠ k := fun hk =>
    ((hlast 1 _ (le_refl 1) hpos rfl (hauthentication 1 _ rfl)).1.1 hk).elim hssh (by decide)
  obtain ⟨hiff, herror⟩ := hlast 2 _ (by decide) (by omega) rfl (hauthentication 2 _ rfl)
  obtain rfl := hiff.2 (.inl hsession)
  obtain ⟨e, rfl, hkind, htarget⟩ := herror rfl
  refine ⟨e, j', hexec, hkind, htarget, hseries.trans ?_⟩
  rw [Backoff.waits_one (by simp)]

/-- Bad credentials that the layer below tells of in the first of three attempts: after a second the device
is asked again, with the same credentials, and a session is opened. -/
theorem ssh_authentication_tried_again :
    let reply : Reply := ⟨none, "", ""⟩
    let c : Channel (List Step) := ⟨fun _ _ _ => return reply, fun _ _ => return reply, return ()⟩
    let outcomes : Nat → Except Failure (Channel (List Step)) := fun i =>
      if i = 1 then .error (.fault ⟨.sshAuthentication, "bad"⟩) else .ok c
    let target : Target := ⟨{ address := .str "192.0.2.1" }, .null, "p1", .str "sw"⟩
    (∃ f, outcomes 1 = .error f ∧ f.IsOf FaultKind.authenticationFamilies) ∧
    ∃ l j', (connect (.answering outcomes) {} target).exec ⟨[], [], []⟩ = (.ok l, j') ∧
      j'.world = [.dialed (requestFor {} target), .slept (.seconds 1), .dialed (requestFor {} target)] := by
  intro reply c outcomes target
  have hfault : Failure.IsOf (.fault ⟨.sshAuthentication, "bad"⟩) [.sshAuthentication] :=
    Failure.isOf_fault.2 (by decide)
  refine ⟨⟨_, rfl, hfault.imp FaultKind.IsOf.authentication_of_ssh⟩, ?_⟩
  have hends : EndsAt outcomes 3 2 := by
    refine ⟨by decide, by decide, fun i hi hi' => ?_, fun h => ?_⟩
    · obtain rfl : i = 1 := by omega
      exact ⟨_, rfl, hfault.imp FaultKind.IsOf.retried_of_ssh⟩
    · obtain ⟨f, hf, -⟩ := h
      cases hf
  obtain ⟨k, x, j', hexec, hends', hseries, hconcludes⟩ :=
    (Dialer.answering_answers outcomes).exec_connect (s := {}) (b := ⟨3, .seconds 1, .seconds 10⟩) rfl target
      (hasTexts_of_address _) (j := ⟨[], [], []⟩) rfl
  obtain rfl := hends.unique hends'
  have htwo : outcomes 2 = .ok c := rfl
  rw [htwo] at hconcludes
  cases hconcludes
  refine ⟨_, j', hexec, hseries.trans ?_⟩
  rw [Backoff.waits_one (by simp)]
  rfl

end GateRollout.Netconf
