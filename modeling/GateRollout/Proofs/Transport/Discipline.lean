import GateRollout.Proofs.Mapping.Variants
import GateRollout.Proofs.Mapping.Rendering
import GateRollout.Proofs.Transport.Sessions
import GateRollout.Transport.Netconf

/-!
# The discipline of sessions

Whatever a device and the way to it do, opening a line is all that is tried again: an edit is asked for
at most once, on a line that is open, and an open line is closed once.  What came of it is told by an
error of the transport that names the device, or by the failure itself where that is none of the
transport.
-/

namespace GateRollout.Netconf

/-- What is asked of the layer below. -/
inductive Call where
  | dial (request : Request)
  | edit (config : String) (datastore operation : Value)
  | close

/-- How a device and the way to it behave: what comes of every attempt to open a line, counted from 0, of the
waits between them, of an edit and of closing the line. -/
structure DeviceScript where
  dials : Nat → Except Failure Unit
  waits : Duration → Except Failure Unit
  edit : Except Failure Reply
  close : Except Failure Unit

variable {σ : Type}

/-- A line goes by a script, and a trace tells what is asked of it. -/
structure Channel.Plays (c : Channel σ) (script : DeviceScript) (calls : σ → List Call) : Prop where
  edits : ∀ config datastore operation j, ∃ j',
    (c.edit config datastore operation).exec j = (script.edit, j') ∧
      calls j'.world = calls j.world ++ [.edit config datastore operation]
  closes : ∀ j, ∃ j', c.close.exec j = (script.close, j') ∧ calls j'.world = calls j.world ++ [.close]

/-- The layer below goes by a script, and a trace tells what is asked of it.  The attempts to open a line are
counted by what was asked before. -/
structure Dialer.Plays (d : Dialer σ) (script : DeviceScript) (calls : σ → List Call) : Prop where
  refuses : ∀ r j f, script.dials (calls j.world).length = .error f →
    ∃ j', (d.dial r).exec j = (.error f, j') ∧ calls j'.world = calls j.world ++ [.dial r]
  opens : ∀ r j, script.dials (calls j.world).length = .ok () →
    ∃ c j', (d.dial r).exec j = (.ok c, j') ∧ calls j'.world = calls j.world ++ [.dial r] ∧
      c.Plays script calls
  waits : ∀ t j, ∃ j', (d.sleep t).exec j = (script.waits t, j') ∧ calls j'.world = calls j.world

/-- A line that does nothing but go by a script and note what is asked of it. -/
def Channel.playing (script : DeviceScript) : Channel (List Call) where
  edit config datastore operation := do
    Action.modifyWorld (· ++ [.edit config datastore operation])
    Action.ofExcept script.edit
  get _ _ := Action.ofExcept script.edit
  close := do
    Action.modifyWorld (· ++ [.close])
    Action.ofExcept script.close

/-- The layer below that does nothing but go by a script and note what is asked of it. -/
def Dialer.playing (script : DeviceScript) : Dialer (List Call) where
  dial r := do
    let calls ← Action.world
    Action.modifyWorld (· ++ [.dial r])
    Action.ofExcept (script.dials calls.length)
    return .playing script
  sleep t := Action.ofExcept (script.waits t)
  warning _ f := f.text

theorem Dialer.exec_dial_playing (script : DeviceScript) (r : Request) (j : Journal (List Call)) :
    ((playing script).dial r).exec j =
      ((script.dials j.world.length).map fun _ => .playing script,
        { j with world := j.world ++ [.dial r] }) := by
  change (Action.ofExcept (script.dials j.world.length) >>= fun _ => pure (Channel.playing script)).exec _ = _
  rw [Action.exec_bind, Action.exec_ofExcept]
  cases script.dials j.world.length <;> rfl

theorem Dialer.playing_plays (script : DeviceScript) : (playing script).Plays script id where
  refuses r j f h := by
    refine ⟨{ j with world := j.world ++ [.dial r] }, ?_, rfl⟩
    rw [exec_dial_playing, show script.dials j.world.length = _ from h]
    rfl
  opens r j h := by
    refine ⟨.playing script, { j with world := j.world ++ [.dial r] }, ?_, rfl, ?_, ?_⟩
    · rw [exec_dial_playing, show script.dials j.world.length = _ from h]
      rfl
    · exact fun config datastore operation i => ⟨_, rfl, rfl⟩
    · exact fun i => ⟨_, rfl, rfl⟩
  waits t j := ⟨j, rfl, rfl⟩

variable {d : Dialer σ} {script : DeviceScript} {calls : σ → List Call} {b : Backoff}

/-! ## Opening a line -/

namespace DeviceScript

/-- An attempt to open a line fails, and is followed by another. -/
structure Passes (script : DeviceScript) (b : Backoff) (i : Nat) : Prop where
  fails : ∃ f, script.dials i = .error f ∧ f.isTransient = true
  waits : script.waits (b.waitAfter (i + 1)) = .ok ()

/-- An attempt to open a line fails and is followed by none: the failure does not pass, or it was the last
attempt of all, or the wait fails. -/
inductive StopsAt (script : DeviceScript) (b : Backoff) (last n : Nat) : Failure → Prop
  | forGood {f : Failure} (h : script.dials n = .error f) (hf : f.isTransient = false) :
      StopsAt script b last n f
  | atLast {f : Failure} (h : script.dials n = .error f) (hn : n = last) : StopsAt script b last n f
  | waiting {f f' : Failure} (h : script.dials n = .error f) (hf : f.isTransient = true) (hn : n < last)
      (hw : script.waits (b.waitAfter (n + 1)) = .error f') : StopsAt script b last n f'

theorem StopsAt.fails {last n : Nat} {f : Failure} (h : script.StopsAt b last n f) :
    ∃ f, script.dials n = .error f := by
  cases h with
  | forGood h _ => exact ⟨_, h⟩
  | atLast h _ => exact ⟨_, h⟩
  | waiting h _ _ _ => exact ⟨_, h⟩

theorem Passes.not_stopsAt {i last : Nat} (h : script.Passes b i) (hi : i < last) {f : Failure} :
    ¬script.StopsAt b last i f := by
  obtain ⟨⟨f', hf', htransient⟩, hwaits⟩ := h
  rintro (⟨h, hf⟩ | ⟨-, rfl⟩ | ⟨-, -, -, hw⟩)
  · obtain rfl := Except.error.inj (hf'.symm.trans h)
    cases htransient.symm.trans hf
  · exact absurd hi (Nat.lt_irrefl _)
  · cases hwaits.symm.trans hw

/-- What a series of attempts comes to: an open line, or the failure that ends it. -/
inductive Reaches (script : DeviceScript) (b : Backoff) (calls : σ → List Call) (last n : Nat) :
    Except Failure (Channel σ) → Prop
  | opened {c : Channel σ} (h : script.dials n = .ok ()) (hc : c.Plays script calls) :
      Reaches script b calls last n (.ok c)
  | stopped {f : Failure} (h : script.StopsAt b last n f) : Reaches script b calls last n (.error f)

end DeviceScript

section

variable {α : Type} {p : Backoff.Pause σ} {x : Action σ α} {j j₁ : Journal σ}

theorem exec_attemptFrom_ok {a : α} (hx : x.exec j = (.ok a, j₁)) (more k : Nat) :
    (b.attemptFrom p x (more + 1) k).exec j = (.ok a, j₁) := by
  rw [Backoff.attemptFrom, Action.exec_bind_ok (Action.exec_attempt x j), hx]
  rfl

theorem exec_attemptFrom_forGood {f : Failure} (hx : x.exec j = (.error f, j₁)) (hf : f.isTransient = false)
    (more k : Nat) : (b.attemptFrom p x (more + 1) k).exec j = (.error f, j₁) := by
  rw [Backoff.attemptFrom, Action.exec_bind_ok (Action.exec_attempt x j), hx]
  simp only [hf]
  rfl

theorem exec_attemptFrom_passing {f : Failure} (hx : x.exec j = (.error f, j₁)) (hf : f.isTransient = true)
    (more k : Nat) :
    (b.attemptFrom p x (more + 1) k).exec j =
      (p.after (b.waitAfter k) f >>= fun _ => b.attemptFrom p x more (k + 1)).exec j₁ := by
  rw [Backoff.attemptFrom, Action.exec_bind_ok (Action.exec_attempt x j), hx]
  simp only [hf, if_true]

end

/-- A wait is what it is without its warning, which is written aside. -/
theorem Dialer.Plays.exec_after (hd : d.Plays script calls) (t : Duration) (f : Failure) (j : Journal σ) :
    ∃ j', (d.toPause.after t f).exec j = (script.waits t, j') ∧ calls j'.world = calls j.world := by
  rw [Backoff.Pause.after, Action.exec_bind_ok (Action.exec_logAside _ _ j)]
  exact hd.waits t _

/-- The attempts from the `k`th on pass up to one that opens a line or is followed by none. -/
theorem Dialer.Plays.exec_attemptFrom (hd : d.Plays script calls) (b : Backoff) (r : Request) (more k : Nat)
    {j : Journal σ} (hj : calls j.world = List.replicate k (.dial r)) :
    ∃ n x j', (b.attemptFrom d.toPause (d.dial r) more (k + 1)).exec j = (x, j') ∧ n ≤ k + more ∧
      (∀ i, k ≤ i → i < n → script.Passes b i) ∧ calls j'.world = List.replicate (n + 1) (.dial r) ∧
      script.Reaches b calls (k + more) n x := by
  have hlength : (calls j.world).length = k := by rw [hj, List.length_replicate]
  have hnext : calls j.world ++ [.dial r] = List.replicate (k + 1) (.dial r) := by
    rw [hj, List.replicate_succ']
  induction more generalizing k j with
  | zero =>
    rw [Backoff.attemptFrom]
    cases hk : script.dials k with
    | ok _ =>
      obtain ⟨c, j', hexec, hcalls, hc⟩ := hd.opens r j (by rw [hlength, hk])
      exact ⟨k, _, j', hexec, le_refl k, fun i _ _ => by omega, hcalls.trans hnext, .opened hk hc⟩
    | error f =>
      obtain ⟨j', hexec, hcalls⟩ := hd.refuses r j f (by rw [hlength, hk])
      exact ⟨k, _, j', hexec, le_refl k, fun i _ _ => by omega, hcalls.trans hnext, .stopped (.atLast hk rfl)⟩
  | succ more ih =>
    cases hk : script.dials k with
    | ok _ =>
      obtain ⟨c, j', hexec, hcalls, hc⟩ := hd.opens r j (by rw [hlength, hk])
      exact ⟨k, .ok c, j', exec_attemptFrom_ok hexec more _, by omega, fun i _ _ => by omega, hcalls.trans hnext,
        .opened hk hc⟩
    | error f =>
      obtain ⟨j₁, hexec, hcalls⟩ := hd.refuses r j f (by rw [hlength, hk])
      rw [hnext] at hcalls
      cases hf : f.isTransient with
      | false =>
        exact ⟨k, .error f, j₁, exec_attemptFrom_forGood hexec hf more _, by omega, fun i _ _ => by omega, hcalls,
          .stopped (.forGood hk hf)⟩
      | true =>
        rw [exec_attemptFrom_passing hexec hf]
        obtain ⟨j₂, hsleep, hcalls₂⟩ := hd.exec_after (b.waitAfter (k + 1)) f j₁
        rw [hcalls] at hcalls₂
        cases hw : script.waits (b.waitAfter (k + 1)) with
        | error f' =>
          rw [hw] at hsleep
          exact ⟨k, .error f', j₂, Action.exec_bind_error hsleep _, by omega, fun i _ _ => by omega, hcalls₂,
            .stopped (.waiting hk hf (by omega) hw)⟩
        | ok _ =>
          rw [hw] at hsleep
          obtain ⟨n, x, j', hrest, hn, hpasses, hall, hx⟩ := ih (k + 1) hcalls₂
            (by rw [hcalls₂, List.length_replicate]) (by rw [hcalls₂, ← List.replicate_succ'])
          rw [show k + 1 + more = k + (more + 1) by omega] at hn hx
          refine ⟨n, x, j', by rw [Action.exec_bind_ok hsleep, hrest], hn, fun i hi hin => ?_, hall, hx⟩
          rcases Nat.eq_or_lt_of_le hi with rfl | hi
          · exact ⟨⟨f, hk, hf⟩, hw⟩
          · exact hpasses i hi hin

/-! ## Faults of the transport -/

/-- What a failure of the layer below becomes. -/
def surfaced (host : Value) (what : String) (f : Failure) : Failure :=
  if f.isTransportFault then transportError host s!"{what} failed: {f.text}" else f

theorem exec_reporting {α : Type} (host : Value) (what : String) (x : Action σ α) (j : Journal σ) :
    (reporting host what x).exec j = ((x.exec j).1.mapError (surfaced host what), (x.exec j).2) := by
  rw [reporting, Action.exec_bind_ok (Action.exec_attempt x j)]
  rcases x.exec j with ⟨f | a, j'⟩
  · simp only [mapError_error, surfaced]
    cases f.isTransportFault <;> rfl
  · rfl

theorem isInfix_append_right {part : List Char} {s : String} (h : part <:+: s.toList) (after : String) :
    part <:+: (s ++ after).toList := by
  rw [String.toList_append]
  exact h.trans (List.prefix_append _ _).isInfix

theorem isInfix_append_left {part : List Char} {s : String} (before : String) (h : part <:+: s.toList) :
    part <:+: (before ++ s).toList := by
  rw [String.toList_append]
  exact h.trans (List.suffix_append _ _).isInfix

/-- A failure is an error of the transport: it tells of a device, and its text holds the host of the
device and ends in some detail. -/
def IsReport (host : Value) (detail : String) (f : Failure) : Prop :=
  ∃ what : String, f = .error { kind := .transport, message := what ++ detail, target := some host.text } ∧
    host.text.toList <:+: what.toList

theorem isReport_transportError {host : Value} (ht : host.hasText = true) {what : String}
    (h : host.text.toList <:+: what.toList) (detail : String) :
    IsReport host detail (transportError host (what ++ detail)) :=
  ⟨what, if_pos ht, h⟩

/-- A failure of the layer below becomes a report, if it is one of the transport, and else stays what it
is. -/
inductive Surfaces (host : Value) : Failure → Failure → Prop
  | reported {f f' : Failure} (hf : f.isTransportFault = true) (h : IsReport host f.text f') :
      Surfaces host f f'
  | asItIs {f : Failure} (hf : f.isTransportFault = false) : Surfaces host f f

theorem surfaces_surfaced {host : Value} (ht : host.hasText = true) {what : String}
    (h : host.text.toList <:+: what.toList) (f : Failure) : Surfaces host f (surfaced host what f) := by
  rw [surfaced]
  cases hf : f.isTransportFault with
  | false => exact .asItIs hf
  | true => exact .reported hf (isReport_transportError ht (isInfix_append_right h " failed: ") f.text)

/-! ## Editing and closing -/

namespace DeviceScript

/-- Closing the line fails with a fault of the transport, if at all. -/
def ClosesQuietly (script : DeviceScript) : Prop := ∀ f, script.close = .error f → f.isTransportFault = true

/-- The device grants the edit; a reply that does not say counts as granting it. -/
def Grants (script : DeviceScript) : Prop := ∃ reply, script.edit = .ok reply ∧ reply.granted ≠ some false

/-- What comes of an edit: a failure surfaces, and a reply that does not grant the edit is reported. -/
inductive Edits (script : DeviceScript) (host : Value) : Except Failure Unit → Prop
  | failed {f f' : Failure} (h : script.edit = .error f) (hf : Surfaces host f f') :
      Edits script host (.error f')
  | rejected {reply : Reply} {f' : Failure} (h : script.edit = .ok reply)
      (hreply : reply.granted = some false) (hf : IsReport host reply.text f') : Edits script host (.error f')
  | granted (h : script.Grants) : Edits script host (.ok ())

/-- What comes of closing a line: only what is no fault of the transport goes further. -/
inductive Closes (script : DeviceScript) : Except Failure Unit → Prop
  | quietly (h : script.ClosesQuietly) : Closes script (.ok ())
  | failed {f : Failure} (h : script.close = .error f) (hf : f.isTransportFault = false) :
      Closes script (.error f)

end DeviceScript

/-- What a push asks of a line that is open. -/
def editCall (payload : String) : Call := .edit (wrapConfig payload) (.str "running") (.str "merge")

variable {l : Link σ}

theorem Channel.Plays.exec_edit (hc : l.channel.Plays script calls) (ht : l.host.hasText = true)
    (payload : String) (j : Journal σ) :
    ∃ x j', (l.session.edit payload).exec j = (x, j') ∧ calls j'.world = calls j.world ++ [editCall payload] ∧
      script.Edits l.host x := by
  obtain ⟨j', hexec, hcalls⟩ := hc.edits (wrapConfig payload) (.str "running") (.str "merge") j
  have hhost : l.host.text.toList <:+: s!"edit-config on {l.host.text}".toList :=
    isInfix_append_left _ (List.infix_refl _)
  have hreporting := exec_reporting l.host s!"edit-config on {l.host.text}"
    (l.channel.edit (wrapConfig payload) (.str "running") (.str "merge")) j
  rw [hexec] at hreporting
  cases hedit : script.edit with
  | error f =>
    rw [hedit] at hreporting
    exact ⟨_, j', Action.exec_bind_error (Action.exec_bind_error hreporting _) _, hcalls,
      .failed hedit (surfaces_surfaced ht hhost f)⟩
  | ok reply =>
    rw [hedit] at hreporting
    by_cases hreply : reply.granted = some false
    · refine ⟨_, j', Action.exec_bind_error (e := transportError l.host
        s!"edit-config on {l.host.text} rejected: {reply.text}") ?_ _, hcalls, .rejected hedit hreply ?_⟩
      · rw [Link.edit, Action.exec_bind_ok hreporting, hreply]
        rfl
      · exact isReport_transportError ht (isInfix_append_right hhost " rejected: ") reply.text
    · refine ⟨.ok (), j', Action.exec_bind_ok (a := reply.text) ?_ _, hcalls, .granted ⟨reply, hedit, hreply⟩⟩
      have hgranted : reply.granted.getD true = true := by
        rcases h : reply.granted with _ | _ | _
        · rfl
        · exact absurd h hreply
        · rfl
      rw [Link.edit, Action.exec_bind_ok hreporting, hgranted]
      rfl

theorem Channel.Plays.exec_close (hc : l.channel.Plays script calls) (ht : l.host.hasText = true)
    (j : Journal σ) :
    ∃ x j', l.session.close.exec j = (x, j') ∧ calls j'.world = calls j.world ++ [.close] ∧
      script.Closes x := by
  obtain ⟨j', hexec, hcalls⟩ := hc.closes j
  have hattempt := Action.exec_attempt l.channel.close j
  rw [hexec] at hattempt
  change ∃ x j', l.close.exec j = (x, j') ∧ _
  rw [Link.close, Action.exec_bind_ok hattempt]
  cases hclose : script.close with
  | ok _ => exact ⟨_, j', rfl, hcalls, .quietly fun f hf => nomatch hclose.symm.trans hf⟩
  | error f =>
    cases hf : f.isTransportFault with
    | false =>
      refine ⟨_, j', ?_, hcalls, .failed hclose hf⟩
      simp only [hf]
      rfl
    | true =>
      have hquiet : script.ClosesQuietly := by
        intro f' hf'
        rw [hclose] at hf'
        rwa [← Except.error.inj hf']
      obtain ⟨j'', hlog, hworld⟩ := (Action.quiet_log .warning
        s!"Closing session to {l.host.text} failed: {f.text}").exec_eq j'
      refine ⟨.ok (), j'', ?_, by rw [hworld, hcalls], .quietly hquiet⟩
      simp only [hf, if_true, Value.words_of_hasText ht]
      exact (Action.exec_bind_ok (Action.exec_ofExcept _ j') _).trans hlog

/-! ## Visits -/

/-- What connecting tells of a device has a text. -/
structure HasTexts (m : Management) : Prop where
  address : m.address.hasText = true
  port : m.port.hasText = true
  username : m.username.hasText = true

instance (m : Management) : Decidable (HasTexts m) :=
  decidable_of_iff (m.address.hasText = true ∧ m.port.hasText = true ∧ m.username.hasText = true)
    ⟨fun h => ⟨h.1, h.2.1, h.2.2⟩, fun h => ⟨h.address, h.port, h.username⟩⟩

/-- Where only the address is given, the rest has a text. -/
theorem hasTexts_of_address (address : String) : HasTexts { address := .str address } :=
  ⟨Value.hasText_str, (by decide : (Value.int 830).hasText = true), Value.hasText_str⟩

/-- What an attempt to connect to a target comes to: what is asked, and whether a line is open at its
end.  Either the settings hold no policy, or the device cannot be told of, or the attempts stop at some
point, or the last of them opens a line. -/
inductive Connects (script : DeviceScript) (s : Settings) (target : Target) :
    List Call → Except Failure Unit → Prop
  | unset {f : Failure} (h : Backoff.ofSettings s = .error f) : Connects script s target [] (.error f)
  | untold {b : Backoff} (hb : Backoff.ofSettings s = .ok b) (ht : ¬HasTexts target.management) :
      Connects script s target [] (.error .unwritten)
  | refused {b : Backoff} {n : Nat} {f f' : Failure} (hb : Backoff.ofSettings s = .ok b)
      (ht : HasTexts target.management) (hn : n ≤ b.attempts - 1) (hpasses : ∀ i < n, script.Passes b i)
      (hstops : script.StopsAt b (b.attempts - 1) n f)
      (hf : Surfaces target.management.address f f') :
      Connects script s target (List.replicate (n + 1) (.dial (requestFor s target))) (.error f')
  | opened {b : Backoff} {n : Nat} (hb : Backoff.ofSettings s = .ok b) (ht : HasTexts target.management)
      (hn : n ≤ b.attempts - 1) (hpasses : ∀ i < n, script.Passes b i) (hopens : script.dials n = .ok ()) :
      Connects script s target (List.replicate (n + 1) (.dial (requestFor s target))) (.ok ())

/-- What a whole visit to a device comes to, with the payload to be sent, if there is one.  Without a line
nothing more is asked; and where a line is open there is one edit, and then the line is closed. -/
inductive Visit (script : DeviceScript) (s : Settings) (target : Target) :
    Except Failure String → List Call → Except Failure Unit → Prop
  | unsent (f : Failure) : Visit script s target (.error f) [] (.error f)
  | notOpened {payload : String} {asked : List Call} {f : Failure}
      (h : Connects script s target asked (.error f)) :
      Visit script s target (.ok payload) asked (.error f)
  | edited {payload : String} {asked : List Call} {x : Except Failure Unit}
      (h : Connects script s target asked (.ok ())) (hclose : script.ClosesQuietly)
      (hx : script.Edits target.management.address x) :
      Visit script s target (.ok payload) (asked ++ [editCall payload, .close]) x
  | notClosed {payload : String} {asked : List Call} {f : Failure}
      (h : Connects script s target asked (.ok ())) (hclose : script.close = .error f)
      (hf : f.isTransportFault = false) :
      Visit script s target (.ok payload) (asked ++ [editCall payload, .close]) (.error f)

variable {s : Settings} {target : Target} {asked : List Call}

theorem Connects.hasTexts (h : Connects script s target asked (.ok ())) : HasTexts target.management := by
  cases h with
  | opened _ ht _ _ _ => exact ht

/-- Whether a line is opened is up to the script. -/
theorem Connects.not_error {asked' : List Call} {f : Failure} (h : Connects script s target asked (.ok ())) :
    ¬Connects script s target asked' (.error f) := by
  cases h with
  | @opened b n hb ht hn hpasses hopens =>
    rintro (h | ⟨-, huntold⟩ | @⟨_, n', f, _, hb', -, hn', hpasses', hstops, -⟩)
    · cases hb.symm.trans h
    · exact huntold ht
    · obtain rfl := Except.ok.inj (hb.symm.trans hb')
      rcases Nat.lt_trichotomy n n' with hlt | rfl | hlt
      · obtain ⟨f, hf, -⟩ := (hpasses' n hlt).fails
        cases hopens.symm.trans hf
      · obtain ⟨f, hf⟩ := hstops.fails
        cases hopens.symm.trans hf
      · exact (hpasses n' hlt).not_stopsAt (by omega) hstops

/-- How many attempts open a line is up to the script. -/
theorem Connects.unique {asked' : List Call} (h : Connects script s target asked (.ok ()))
    (h' : Connects script s target asked' (.ok ())) : asked = asked' := by
  obtain _ | _ | _ | @⟨b, n, hb, -, -, hpasses, hopens⟩ := h
  obtain _ | _ | _ | @⟨_, n', hb', -, -, hpasses', hopens'⟩ := h'
  obtain rfl := Except.ok.inj (hb.symm.trans hb')
  rcases Nat.lt_trichotomy n n' with hlt | rfl | hlt
  · obtain ⟨f, hf, -⟩ := (hpasses' n hlt).fails
    cases hopens.symm.trans hf
  · rfl
  · obtain ⟨f, hf, -⟩ := (hpasses n' hlt).fails
    cases hopens'.symm.trans hf

/-- A visit succeeds just when there is something to be sent, a line is opened, the edit is granted and the
line is closed quietly. -/
theorem Visit.ok_iff {sent : Except Failure String} {x : Except Failure Unit}
    (h : Visit script s target sent asked x) :
    x = .ok () ↔ (∃ payload, sent = .ok payload) ∧
      (∃ asked, Connects script s target asked (.ok ())) ∧ script.Grants ∧ script.ClosesQuietly := by
  constructor
  · rintro rfl
    cases h with
    | edited h hclose hx =>
      cases hx with
      | granted hgrants => exact ⟨⟨_, rfl⟩, ⟨_, h⟩, hgrants, hclose⟩
  · rintro ⟨⟨payload, rfl⟩, ⟨_, hopened⟩, ⟨reply, hedit, hreply⟩, hquiet⟩
    cases h with
    | notOpened h => exact absurd h hopened.not_error
    | edited _ _ hx =>
      cases hx with
      | failed h _ => cases hedit.symm.trans h
      | rejected h hfalse _ =>
        obtain rfl := Except.ok.inj (hedit.symm.trans h)
        exact absurd hfalse hreply
      | granted _ => rfl
    | notClosed _ hclose hf => cases (hquiet _ hclose).symm.trans hf

/-- The address and the port of a device, as they are told. -/
def place (m : Management) : String := s!"{m.address.text}:{m.port.text}"

/-- Where everything that is told has a text, connecting comes to what the attempts come to, which start from
a journal with a line more. -/
theorem exec_connect (d : Dialer σ) {s : Settings} {b : Backoff} (hb : Backoff.ofSettings s = .ok b)
    {target : Target} (ht : HasTexts target.management) (j : Journal σ) :
    ∃ j₁, j₁.world = j.world ∧
      ∀ x j₂, (b.attempt d.toPause (d.dial (requestFor s target))).exec j₁ = (x, j₂) →
        ∃ j', j'.world = j₂.world ∧ (connect d s target).exec j =
          ((x.mapError (surfaced target.management.address s!"Connection to {place target.management}")).map
            fun c => ⟨c, target.management.address, s.rpcTimeout⟩, j') := by
  obtain ⟨j₁, hlog, hworld⟩ := (Action.quiet_log .debug
    s!"Connecting to {place target.management} as {target.management.username.text}").exec_eq j
  refine ⟨j₁, hworld, fun x j₂ hattempt => ?_⟩
  have hreporting := exec_reporting target.management.address s!"Connection to {place target.management}"
    (b.attempt d.toPause (d.dial (requestFor s target))) j₁
  rw [hattempt] at hreporting
  rw [connect, hb, Action.exec_bind_ok (Action.exec_ofExcept _ j), Value.words_of_hasText ht.address,
    Action.exec_bind_ok (Action.exec_ofExcept _ j), Value.words_of_hasText ht.port,
    Action.exec_bind_ok (Action.exec_ofExcept _ j), Value.words_of_hasText ht.username,
    Action.exec_bind_ok (Action.exec_ofExcept _ j)]
  cases x with
  | error f => exact ⟨j₂, rfl, (Action.exec_bind_ok hlog _).trans (Action.exec_bind_error hreporting _)⟩
  | ok c =>
    obtain ⟨j', hlog', hworld'⟩ := (Action.quiet_log .info
      s!"NETCONF session established with {target.management.address.text}").exec_eq j₂
    refine ⟨j', hworld', (Action.exec_bind_ok hlog _).trans ((Action.exec_bind_ok hreporting _).trans ?_)⟩
    exact Action.exec_bind_ok hlog' _

/-- Where something that is told has no text, connecting fails before anything is asked. -/
theorem exec_connect_untold (d : Dialer σ) {s : Settings} {b : Backoff} (hb : Backoff.ofSettings s = .ok b)
    {target : Target} (ht : ¬HasTexts target.management) (j : Journal σ) :
    (connect d s target).exec j = (.error .unwritten, j) := by
  rw [connect, hb, Action.exec_bind_ok (Action.exec_ofExcept _ j)]
  by_cases haddress : target.management.address.hasText = true
  · rw [Value.words_of_hasText haddress, Action.exec_bind_ok (Action.exec_ofExcept _ j)]
    by_cases hport : target.management.port.hasText = true
    · rw [Value.words_of_hasText hport, Action.exec_bind_ok (Action.exec_ofExcept _ j),
        Value.words_of_not_hasText fun husername => ht ⟨haddress, hport, husername⟩,
        Action.exec_bind_error (Action.exec_ofExcept _ j)]
    · rw [Value.words_of_not_hasText hport, Action.exec_bind_error (Action.exec_ofExcept _ j)]
  · rw [Value.words_of_not_hasText haddress, Action.exec_bind_error (Action.exec_ofExcept _ j)]

theorem Dialer.Plays.exec_connect (hd : d.Plays script calls) (s : Settings) (target : Target) {j : Journal σ}
    (hj : calls j.world = []) :
    ∃ x j', (connect d s target).exec j = (x, j') ∧ Connects script s target (calls j'.world)
      (x.map fun _ => ()) ∧
      ∀ l, x = .ok l → l.channel.Plays script calls ∧ l.host = target.management.address := by
  cases hb : Backoff.ofSettings s with
  | error f =>
    refine ⟨.error f, j, ?_, by rw [hj]; exact .unset hb, nofun⟩
    rw [connect, hb, Action.exec_bind_error (Action.exec_ofExcept _ j)]
  | ok b =>
    by_cases ht : HasTexts target.management
    case neg => exact ⟨_, j, exec_connect_untold d hb ht j, by rw [hj]; exact .untold hb ht, nofun⟩
    have hhost : target.management.address.text.toList <:+:
        s!"Connection to {place target.management}".toList :=
      isInfix_append_left _ (isInfix_append_right (isInfix_append_right (List.infix_refl _) _) _)
    obtain ⟨j₁, hworld, hconnect⟩ := Netconf.exec_connect d hb ht j
    obtain ⟨n, x, j₂, hattempt, hn, hpasses, hcalls, hreaches⟩ :=
      hd.exec_attemptFrom b (requestFor s target) (b.attempts - 1) 0 (j := j₁) (by rw [hworld, hj]; rfl)
    rw [Nat.zero_add] at hn hreaches
    obtain ⟨j', hworld', hexec⟩ := hconnect x j₂ hattempt
    rw [← hworld'] at hcalls
    refine ⟨_, j', hexec, ?_⟩
    rw [hcalls]
    cases hreaches with
    | stopped hstops =>
      exact ⟨.refused hb ht hn (fun i => hpasses i (Nat.zero_le i)) hstops (surfaces_surfaced ht.address hhost _),
        nofun⟩
    | @opened c hopens hchannel =>
      refine ⟨.opened hb ht hn (fun i => hpasses i (Nat.zero_le i)) hopens, ?_⟩
      rintro l ⟨⟩
      exact ⟨hchannel, rfl⟩

/-- Editing a target once is a visit to it. -/
theorem Dialer.Plays.exec_editOnce (hd : d.Plays script calls) (s : Settings) (target : Target)
    (payload : String) {j : Journal σ} (hj : calls j.world = []) :
    ∃ x j', ((connector d s).editOnce target payload).exec j = (x, j') ∧
      Visit script s target (.ok payload) (calls j'.world) x := by
  obtain ⟨x, j₁, hconnect, hconnects, hlink⟩ := hd.exec_connect s target hj
  cases x with
  | error f =>
    exact ⟨.error f, j₁, Action.exec_bind_error (Action.exec_bind_error hconnect _) _, .notOpened hconnects⟩
  | ok l =>
    obtain ⟨hchannel, hhost⟩ := hlink l rfl
    have htext : l.host.hasText = true := hhost ▸ hconnects.hasTexts.address
    obtain ⟨x, j₂, hedit, hcalls₂, hedits⟩ := hchannel.exec_edit htext payload j₁
    obtain ⟨x', j₃, hclose, hcalls₃, hcloses⟩ := hchannel.exec_close htext j₂
    have hexec : ((connector d s).editOnce target payload).exec j = (x' >>= fun _ => x, j₃) := by
      have hsession : ((connector d s).connect target).exec j = (.ok l.session, j₁) :=
        Action.exec_bind_ok hconnect _
      rw [Connector.editOnce, Action.exec_bind_ok hsession, Connector.exec_closingAfter, hedit, hclose]
    have hasked : calls j₃.world = calls j₁.world ++ [editCall payload, .close] := by
      rw [hcalls₃, hcalls₂, List.append_assoc]
      rfl
    rw [hhost] at hedits
    refine ⟨_, j₃, hexec, ?_⟩
    rw [hasked]
    cases hcloses with
    | quietly hquiet => exact .edited hconnects hquiet hedits
    | failed h hf => exact .notClosed hconnects h hf

/-! ## Pushes -/

/-- What a backend makes of what a push by a plugin came to: an error keeps its kind, and its text stands
behind the name of the plugin. -/
inductive Wraps (p : Plugin) (target : Target) : Except Failure Unit → Except Failure Plugin → Prop
  | ok : Wraps p target (.ok ()) (.ok p)
  | error (e : RolloutError) :
      Wraps p target (.error (.error e))
        (.error (.error
          ⟨e.kind, s!"plugin {p.name} push failed: {e.message}", some p.name, some target.label⟩))
  | fault (f : Fault) : Wraps p target (.error (.fault f)) (.error (.fault f))

variable {p : Plugin}

theorem wraps_inContext (p : Plugin) {target : Target} (ht : target.deviceName.hasText = true)
    (f : Failure) : Wraps p target (.error f) (.error (Backend.inContext p target "push failed" f)) := by
  cases f with
  | fault f => exact .fault f
  | error e =>
    have htext (what : String) (hwhat : what = "push failed") :
        s!"plugin {p.name} {what}: {e.message}" = s!"plugin {p.name} push failed: {e.message}" :=
      String.toList_injective (by simp [hwhat, toString])
    rw [Backend.inContext_error ht, Backend.contextual, htext _ rfl]
    exact .error e

theorem Dialer.Plays.exec_deliver (hd : d.Plays script calls) (p : Plugin) (s : Settings) (target : Target)
    (payload : String) {j : Journal σ} (hj : calls j.world = []) :
    ∃ x j', (p.deliver (connector d s) target payload).exec j = (x, j') ∧
      Visit script s target (.ok payload) (calls j'.world) x := by
  obtain ⟨x, j₁, hexec, hvisit⟩ := hd.exec_editOnce s target payload hj
  cases x with
  | error f => exact ⟨_, j₁, Action.exec_bind_error hexec _, hvisit⟩
  | ok _ =>
    obtain ⟨j', hdeliver, hworld⟩ := p.exec_deliver hexec
    exact ⟨_, j', hdeliver, by rwa [hworld]⟩

theorem refuses_message (hp : p.IsVariant) (c : Connector σ) (m : Intent) (target : Target) (j : Journal σ) :
    (p.push c (.message m) target).exec j =
      (.error (p.mappingError s!"{p.name} cannot push {m.typeName}"), j) := by
  obtain ⟨required, rfl | rfl⟩ := hp <;> rfl

theorem Dialer.Plays.exec_push (hd : d.Plays script calls) (p : Plugin) (s : Settings) (mapped : Mapped)
    (target : Target) {j : Journal σ} (hj : calls j.world = []) :
    ∃ x j', (p.push (connector d s) mapped target).exec j = (x, j') ∧
      Visit script s target (p.sent mapped target) (calls j'.world) x := by
  obtain ⟨i, hi, hpush⟩ := p.push_leads (connector d s) mapped target j
  rw [← hi] at hj
  cases hsent : p.sent mapped target with
  | error f =>
    rw [hsent] at hpush
    exact ⟨.error f, i, hpush, by rw [hj]; exact .unsent f⟩
  | ok payload =>
    rw [hsent] at hpush
    obtain ⟨x, j', hdeliver, hvisit⟩ := hd.exec_deliver p s target payload hj
    exact ⟨x, j', hpush.trans hdeliver, hvisit⟩

theorem Dialer.Plays.exec_push_through (hd : d.Plays script calls) (hp : p.IsVariant) (s : Settings)
    (target : Target) {b : Backend} {m : Intent} {model : DeviceModel} {t : GateTable}
    (hb : b.choice m model = .ok p) (hm : p.mapped m = .ok (.table t)) {j : Journal σ}
    (hj : calls j.world = []) :
    ∃ x y j', (b.push (connector d s) m model target).exec j = (y, j') ∧ Wraps p target x y ∧
      Visit script s target (p.sent (.table t) target) (calls j'.world) x := by
  obtain ⟨i, hi, hpush⟩ := b.push_leads (connector d s) m model target j
  have hprepared : b.prepared m model target =
      (p.sent (.table t) target).mapError (Backend.inContext p target "push failed") >>= fun payload =>
        .ok (p, payload) := by
    rw [Backend.prepared, hb]
    change ((p.mapped m).mapError _ >>= _) = _
    rw [hm]
    rfl
  rw [hprepared] at hpush
  rw [← hi] at hj
  cases hsent : p.sent (.table t) target with
  | error f =>
    obtain ⟨g, rfl⟩ := hp.fault_of_sent hsent
    rw [hsent] at hpush
    exact ⟨_, _, i, hpush, .fault g, by rw [hj]; exact .unsent _⟩
  | ok payload =>
    obtain ⟨-, ht⟩ := hp.sent_eq_ok.1 hsent
    rw [hsent] at hpush
    obtain ⟨x, j', hdeliver, hvisit⟩ := hd.exec_deliver p s target payload hj
    have hwithin :=
      Backend.exec_within p target "push failed" (p.deliver (connector d s) target payload) i
    rw [hdeliver] at hwithin
    cases x with
    | error f =>
      exact ⟨_, _, j', hpush.trans (Action.exec_bind_error hwithin _), wraps_inContext p ht f, hvisit⟩
    | ok _ => exact ⟨_, _, j', hpush.trans (Action.exec_bind_ok hwithin _), .ok, hvisit⟩

/-- A plugin of this library refuses what is no table before anything is asked.  A push of a table is one
visit to the target, which succeeds just when there is a payload to be sent, a line is opened, the edit is
granted and the line is closed quietly; a table whose numbers are written has a payload for every target
that has a name.  Through a backend an error keeps its kind and its text, and tells of the plugin and the
target. -/
theorem push_disciplined (hp : p.IsVariant) (hd : d.Plays script calls) (s : Settings) (target : Target)
    {j : Journal σ} (hj : calls j.world = []) :
    (∀ m, (p.push (connector d s) (.message m) target).exec j =
      (.error (p.mappingError s!"{p.name} cannot push {m.typeName}"), j)) ∧
    (∀ t, ∃ x j', (p.push (connector d s) (.table t) target).exec j = (x, j') ∧
      Visit script s target (p.sent (.table t) target) (calls j'.world) x ∧
      (x = .ok () ↔ (∃ payload, p.sent (.table t) target = .ok payload) ∧
        (∃ asked, Connects script s target asked (.ok ())) ∧ script.Grants ∧ script.ClosesQuietly)) ∧
    (∀ t, t.isWritten = true → target.deviceName.hasText = true →
      ∃ payload, p.payload (.table t) target = .ok payload ∧ p.sent (.table t) target = .ok payload) ∧
    ∀ b m model t, Backend.choice b m model = .ok p → p.mapped m = .ok (.table t) →
      ∃ x y j', (b.push (connector d s) m model target).exec j = (y, j') ∧ Wraps p target x y ∧
        t.isWritten = true ∧ Visit script s target (p.sent (.table t) target) (calls j'.world) x := by
  refine ⟨fun m => refuses_message hp _ m target j, fun t => ?_, fun t hwritten ht => ?_,
    fun b m model t hb hm => ?_⟩
  · obtain ⟨x, j', hexec, hvisit⟩ := hd.exec_push p s (.table t) target hj
    exact ⟨x, j', hexec, hvisit, hvisit.ok_iff⟩
  · obtain ⟨text, htext⟩ := hp.payload_ok hwritten
    exact ⟨_, htext target, hp.sent_eq_ok.2 ⟨htext target, ht⟩⟩
  · obtain ⟨x, y, j', hexec, hwraps, hvisit⟩ := hd.exec_push_through hp s target hb hm hj
    exact ⟨x, y, j', hexec, hwraps, hp.isWritten_of_mapped hm, hvisit⟩

/-- A device that answers the second attempt and rejects the edit, behind a backend. -/
theorem push_disciplined_rejected :
    let script : DeviceScript :=
      { dials := fun i => if i = 0 then .error (.fault ⟨.timedOut, ""⟩) else .ok ()
        waits := fun _ => .ok ()
        edit := .ok ⟨some false, "<rpc-error/>", ""⟩
        close := .ok () }
    let b : Backend := ⟨"netconf", [("qbv", [.standard])]⟩
    let m : Intent := .schedule ⟨"s", 0, 1000, .enabled, [], none⟩
    let target : Target := ⟨{ address := .str "192.0.2.1" }, .null, "p1", .str "sw"⟩
    ∃ payload f j',
      (b.push (connector (.playing script) {}) m ⟨Plugin.standard.required⟩ target).exec ⟨[], [], []⟩ =
        (.error (.error f), j') ∧
      f.kind = .transport ∧ f.plugin = some "qbv-netconf" ∧ f.target = some "sw/p1" ∧
      j'.world = [.dial (requestFor {} target), .dial (requestFor {} target), editCall payload, .close] := by
  intro script b m target
  obtain ⟨t, ht⟩ : ∃ t, Plugin.standard.mapped m = .ok (.table t) := ⟨_, rfl⟩
  have hnamed : target.deviceName.hasText = true := Value.hasText_str
  have hfilter : (b.pluginsOf "qbv").filter (·.isSupportedBy ⟨Plugin.standard.required⟩) = [.standard] := rfl
  have hb : b.choice m ⟨Plugin.standard.required⟩ = .ok Plugin.standard := Backend.selected_of_filter hfilter
  obtain ⟨-, -, hsent, hthrough⟩ :=
    push_disciplined ⟨_, .inl rfl⟩ (Dialer.playing_plays script) {} target (j := ⟨[], [], []⟩) rfl
  obtain ⟨x, y, j', hexec, hwraps, hwritten, hvisit⟩ := hthrough b m _ t hb ht
  obtain ⟨payload, -, hpayload⟩ := hsent t hwritten hnamed
  rw [hpayload] at hvisit
  have htexts : HasTexts target.management := hasTexts_of_address _
  have hconnects : Connects script {} target (List.replicate 2 (.dial (requestFor {} target))) (.ok ()) := by
    refine .opened (b := ⟨3, .seconds 1, .seconds 10⟩) rfl htexts (by decide) (fun i hi => ?_) rfl
    obtain rfl : i = 0 := by omega
    exact ⟨⟨_, rfl, rfl⟩, rfl⟩
  generalize hasked : id j'.world = asked at hvisit
  cases hvisit with
  | notOpened h => exact absurd h hconnects.not_error
  | notClosed _ hclose _ => cases hclose
  | edited h _ hx =>
    obtain rfl := h.unique hconnects
    cases hx with
    | failed hedit _ => cases hedit
    | granted hgrants =>
      obtain ⟨reply, hedit, hreply⟩ := hgrants
      cases hedit
      exact absurd rfl hreply
    | rejected _ _ hreport =>
      obtain ⟨what, rfl, -⟩ := hreport
      cases hwraps with
      | error e => exact ⟨payload, _, j', hexec, rfl, rfl, rfl, hasked⟩

/-- A device that neither takes an edit nor lets the line be closed properly: the fault of the edit, one
of the transport, is not reported, since the failure to close takes its place. -/
theorem edit_fault_lost_in_closing :
    let script : DeviceScript :=
      ⟨fun _ => .ok (), fun _ => .ok (), .error (.fault ⟨.session, "boom"⟩),
        .error (.fault ⟨.wrongValue, "bad"⟩)⟩
    let target : Target := ⟨{ address := .str "192.0.2.1" }, .null, "p1", .str "sw"⟩
    let t : GateTable := ⟨true, none, [], .int 1000, .int 1000000000, 0, 0, .int 0, true⟩
    ∃ f x j', script.edit = .error f ∧ f.isTransportFault = true ∧
      (Plugin.standard.push (connector (.playing script) {}) (.table t) target).exec ⟨[], [], []⟩ = (x, j') ∧
      ¬∃ f', x = .error f' ∧ Surfaces target.management.address f f' := by
  intro script target t
  have hv : Plugin.standard.IsVariant := ⟨_, .inl rfl⟩
  obtain ⟨text, htext⟩ := hv.payload_ok (t := t) (by decide)
  have hpayload := hv.sent_eq_ok.2 ⟨htext target, Value.hasText_str⟩
  obtain ⟨x, j', hexec, hvisit⟩ :=
    (Dialer.playing_plays script).exec_push Plugin.standard {} (.table t) target (j := ⟨[], [], []⟩) rfl
  rw [hpayload] at hvisit
  refine ⟨_, x, j', rfl, rfl, hexec, ?_⟩
  rintro ⟨f', rfl, hf'⟩
  have hconnects : Connects script {} target (List.replicate 1 (.dial (requestFor {} target))) (.ok ()) :=
    .opened (b := ⟨3, .seconds 1, .seconds 10⟩) rfl (hasTexts_of_address _) (by decide) nofun rfl
  generalize id j'.world = asked at hvisit
  cases hvisit with
  | notOpened h => exact absurd h hconnects.not_error
  | edited _ hclose _ => cases hclose _ rfl
  | notClosed _ hclose _ =>
    cases hclose
    cases hf' with
    | reported _ h =>
      obtain ⟨what, h, -⟩ := h
      cases h

end GateRollout.Netconf
