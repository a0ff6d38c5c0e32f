import GateRollout.CommandLine.Run
import GateRollout.Proofs.Audit.History
import GateRollout.Proofs.Audit.Readable
import GateRollout.Proofs.Service.Arguments

/-!
# Histories with a limit

All histories of a log with one filter are cut from one list, that of a limit larger than the log: a positive
limit leaves as many records as it says, the newest first, and a limit of zero leaves all.  On the command
line the history prints the lines of these records and nothing else.
-/

namespace GateRollout

open Text

namespace History

variable {f : Filter} {log : String}

/-! ## What a limit leaves -/

theorem lastItems_zero {α : Type} (xs : List α) : lastItems 0 xs = xs := rfl

theorem reverse_lastItems {α : Type} {n : Nat} (hn : 0 < n) (xs : List α) :
    (lastItems n xs).reverse = xs.reverse.take n := by
  rw [lastItems, if_pos (Int.natCast_pos.2 hn), Int.toNat_natCast, List.take_reverse]

theorem mem_of_mem_lastItems {α : Type} {limit : Int} {xs : List α} {x : α} (h : x ∈ lastItems limit xs) :
    x ∈ xs := by
  rw [lastItems] at h
  split at h
  all_goals exact List.mem_of_mem_drop h

theorem recent_empty (f : Filter) (limit : Int) : recent f (.int limit) "" = .ok [] := by
  have hlast : lastItems limit ([] : List PushRecord) = [] := by
    rw [lastItems]
    split
    all_goals exact List.drop_nil
  have haccepted : accepted f "" = .ok [] := rfl
  rw [recent, haccepted]
  exact congrArg (fun rs => Except.ok (List.reverse rs)) hlast

/-- How many lines a log has. -/
def lineCount (log : String) : Nat := (linesOf [] log.toList).length

/-- A log has no more records than lines. -/
theorem length_accepted {records : List PushRecord} (h : accepted f log = .ok records) :
    records.length ≤ lineCount log := by
  obtain ⟨found, hfound, h⟩ := bind_eq_ok.1 h
  obtain rfl := Except.ok.inj h
  rw [lineCount, (mapM_eq_ok_iff.1 hfound).length_eq]
  exact Nat.le_trans (List.length_filter_le _ _) (List.length_filterMap_le _ _)

/-- What is read with a limit is cut from a list of records, or fails as that does: zero leaves all of it, and
any other limit the first so many. -/
structure Cuts {α : Type} (read : Nat → Except Failure (List α)) (whole : Except Failure (List α)) :
    Prop where
  zero : read 0 = whole
  positive : ∀ n, 0 < n → read n = whole.map (List.take n)

namespace Cuts

variable {α : Type} {read : Nat → Except Failure (List α)} {whole : Except Failure (List α)} {xs : List α}

theorem length_le (h : Cuts read whole) {n : Nat} (hn : 0 < n) (hxs : read n = .ok xs) : xs.length ≤ n := by
  rw [h.positive n hn] at hxs
  cases whole with
  | error e => cases hxs
  | ok all =>
    obtain rfl := Except.ok.inj hxs
    exact List.length_take_le n all

/-- A smaller limit leaves a beginning of what a larger one leaves. -/
theorem exists_prefix (h : Cuts read whole) {n m : Nat} (hn : 0 < n) (hnm : n ≤ m) (hxs : read m = .ok xs) :
    ∃ ys, read n = .ok ys ∧ ys <+: xs := by
  rw [h.positive m (Nat.lt_of_lt_of_le hn hnm)] at hxs
  rw [h.positive n hn]
  cases whole with
  | error e => cases hxs
  | ok all =>
    obtain rfl := Except.ok.inj hxs
    exact ⟨all.take n, rfl, List.take_prefix_take_left hnm⟩

end Cuts

theorem cuts_recent (f : Filter) {log : String} {bound : Nat} (hbound : lineCount log < bound) :
    Cuts (fun n => recent f (.int n) log) (recent f (.int bound) log) := by
  cases haccepted : accepted f log with
  | error e =>
    have hrecent (n : Nat) : recent f (.int n) log = .error e := by rw [recent, haccepted]; rfl
    exact ⟨(hrecent 0).trans (hrecent bound).symm, fun n _ => by rw [hrecent n, hrecent bound]; rfl⟩
  | ok records =>
    have hrecent (n : Nat) : recent f (.int n) log = .ok (lastItems n records).reverse := by
      rw [recent, haccepted]; rfl
    have hwhole : recent f (.int bound) log = .ok records.reverse := by
      have hle := Nat.le_trans (length_accepted haccepted) (Nat.le_of_lt hbound)
      rw [hrecent, lastItems_of_le (Int.ofNat_le.2 hle)]
    have hzero : recent f (.int (0 : Nat)) log = .ok records.reverse :=
      (hrecent 0).trans (congrArg (fun rs => Except.ok (List.reverse rs)) (lastItems_zero records))
    refine ⟨hzero.trans hwhole.symm, fun n hn => ?_⟩
    rw [hwhole]
    exact (hrecent n).trans (congrArg Except.ok (reverse_lastItems hn records))

theorem ofJson_of_recordOn? {line : List Char} {r : PushRecord} (h : recordOn? line = .ok (some r)) :
    ∃ text, PushRecord.ofJson text = .ok r := by
  rw [recordOn?] at h
  split at h
  · cases h
  · split at h
    case h_1 r' hr => cases h; exact ⟨_, hr⟩
    all_goals cases h

/-- The records of a history have lines. -/
theorem toJson_of_mem_recent {limit : Value} {records : List PushRecord} (h : recent f limit log = .ok records)
    {r : PushRecord} (hr : r ∈ records) : ∃ line, r.toJson = .ok line := by
  obtain ⟨all, hall, h⟩ := bind_eq_ok.1 h
  obtain ⟨n, -, h⟩ := bind_eq_ok.1 h
  obtain rfl := Except.ok.inj h
  obtain ⟨found, hfound, h⟩ := bind_eq_ok.1 hall
  obtain rfl := Except.ok.inj h
  obtain ⟨r', hr', rfl⟩ : ∃ r' ∈ found, r' = some r := by
    simpa using (List.mem_filter.1 (mem_of_mem_lastItems (List.mem_reverse.1 hr))).1
  obtain ⟨line, -, hline⟩ := mem_of_mapM_eq_ok hfound _ hr'
  obtain ⟨text, htext⟩ := ofJson_of_recordOn? hline
  exact PushRecord.toJson_of_ofJson htext

end History

/-! ## Logs on a host -/

namespace AuditLog

variable {σ : Type} {h : Host σ} {path : Option String} {f : History.Filter} {j : Journal σ}

/-- The text of the log at a path, or at the default one; a log that does not exist has none. -/
def textAt (h : Host σ) (path : Option String) : Action σ String := do
  let path := path.getD (pathIn (defaultDirectory h))
  if ← h.hasFile path then
    let bytes ← h.readFile path
    match Text.decodeUtf8 bytes with
    | .ok log => return log
    | .error e => throw (.fault ⟨.undecodable, e.message⟩)
  else return ""

/-- A number is larger than the log at a path. -/
def IsLarger (h : Host σ) (path : Option String) (j : Journal σ) (bound : Nat) : Prop :=
  ∀ log j', (textAt h path).exec j = (.ok log, j') → History.lineCount log < bound

/-- A history is read from the text of the log. -/
theorem exec_recent_int (h : Host σ) (path : Option String) (f : History.Filter) (limit : Int)
    (j : Journal σ) :
    (recent h path f (.int limit)).exec j =
      (do Action.ofExcept (History.recent f (.int limit) (← textAt h path)) : Action σ _).exec j := by
  rw [recent, textAt, Action.exec_bind, Action.exec_bind, Action.exec_bind]
  rcases (h.hasFile (path.getD (pathIn (defaultDirectory h)))).exec j with ⟨e | b, j₁⟩
  · rfl
  cases b with
  | false => exact congrArg (·, j₁) (History.recent_empty f limit).symm
  | true =>
    simp only [if_true, Action.exec_bind]
    rcases (h.readFile (path.getD (pathIn (defaultDirectory h)))).exec j₁ with ⟨e | bytes, j₂⟩
    · rfl
    dsimp only
    cases decodeUtf8 bytes <;> rfl

/-- What is read from a log with a limit, from one state. -/
theorem exec_recent_cuts (f : History.Filter) {bound : Nat} (hbound : IsLarger h path j bound) :
    History.Cuts (fun n => ((recent h path f (.int n)).exec j).1) ((recent h path f (.int bound)).exec j).1 ∧
      ∀ n : Nat, ((recent h path f (.int n)).exec j).2 = ((recent h path f (.int bound)).exec j).2 := by
  simp only [exec_recent_int, Action.exec_bind]
  rcases hlog : (textAt h path).exec j with ⟨e | log, j'⟩
  · exact ⟨⟨rfl, fun _ _ => rfl⟩, fun _ => rfl⟩
  · exact ⟨History.cuts_recent f (hbound log j' hlog), fun _ => rfl⟩

/-- The records of a history have lines. -/
theorem mapM_toJson_of_exec_recent {limit : Int} {records : List PushRecord} {j' : Journal σ}
    (hrecent : (recent h path f (.int limit)).exec j = (.ok records, j')) :
    ∃ lines, records.mapM PushRecord.toJson = .ok lines := by
  rw [exec_recent_int, Action.exec_bind] at hrecent
  rcases hlog : (textAt h path).exec j with ⟨e | log, j₁⟩
  all_goals rw [hlog] at hrecent
  · cases hrecent
  · exact mapM_ok fun r hr => History.toJson_of_mem_recent (congrArg Prod.fst hrecent) hr

end AuditLog

/-! ## The command line -/

namespace CommandLine

variable {σ : Type} {h : Host σ} {j : Journal σ}

/-- The path of the log that the history is read from, where the settings name its directory. -/
def historyPath (s : Settings) : Option String :=
  (s.auditDirectory.asText?.filter fun d => !d.isEmpty).map AuditLog.pathIn

/-- How a command ends with settings that are acceptable: as it was carried out, or with what it can report
about a failure. -/
theorem exec_run (d : Netconf.Dialer σ) {i : Invocation} {s : Settings}
    (hs : i.settings h.environment = .ok s) (j : Journal σ) :
    (run h d i).exec j =
      (match ((carryOut h d s i.command).exec j).1 with
        | .ok e => .ok e
        | .error f => (Ending.ofFailure? f).elim (.error f) .ok, ((carryOut h d s i.command).exec j).2) := by
  have hcarried : (do carryOut h d (← Action.ofExcept (i.settings h.environment)) i.command :
      Action σ Ending).exec j = (carryOut h d s i.command).exec j := by
    rw [hs]
    rfl
  rw [run, Action.exec_bind_ok (Action.exec_attempt _ j), hcarried]
  rcases (carryOut h d s i.command).exec j with ⟨f | e, j'⟩
  · dsimp only
    cases Ending.ofFailure? f <;> rfl
  · rfl

/-- How a command ends that prints records: it prints the line of each of them, and nothing else; where they
cannot be read, it reports that or passes it on. -/
inductive Prints : Except Failure (List PushRecord) → Except Failure Ending → Prop
  | lines {records : List PushRecord} {lines : List String}
      (each : List.Forall₂ (fun r line => r.toJson = .ok line) records lines) :
      Prints (.ok records) (.ok { code := 0, lines })
  | reported {f : Failure} {e : Ending} (h : Ending.ofFailure? f = some e) : Prints (.error f) (.ok e)
  | passedOn {f : Failure} (h : Ending.ofFailure? f = none) : Prints (.error f) (.error f)

theorem run_history_prints (d : Netconf.Dialer σ) {i : Invocation} {node : Option String} {limit : Int}
    (hi : i.command = .history node limit) {s : Settings} (hs : i.settings h.environment = .ok s)
    (j : Journal σ) :
    Prints ((AuditLog.recent h (historyPath s) (.ofTexts node none) (.int limit)).exec j).1
        ((run h d i).exec j).1 ∧
      ((run h d i).exec j).2 =
        ((AuditLog.recent h (historyPath s) (.ofTexts node none) (.int limit)).exec j).2 := by
  have hhistory : carryOut h d s i.command = (do
      let records ← AuditLog.recent h (historyPath s) (.ofTexts node none) (.int limit)
      return { code := 0, lines := ← Action.ofExcept (records.mapM PushRecord.toJson) }) := by
    rw [hi]
    rfl
  rw [exec_run d hs, hhistory]
  rcases hrecent : (AuditLog.recent h (historyPath s) (.ofTexts node none) (.int limit)).exec j with
    ⟨f | records, j'⟩
  · rw [Action.exec_bind_error hrecent]
    cases hending : Ending.ofFailure? f with
    | none => exact ⟨by simpa [hending] using Prints.passedOn hending, rfl⟩
    | some e => exact ⟨by simpa [hending] using Prints.reported hending, rfl⟩
  · obtain ⟨lines, hlines⟩ := AuditLog.mapM_toJson_of_exec_recent hrecent
    rw [Action.exec_bind_ok hrecent, hlines]
    exact ⟨.lines (mapM_eq_ok_iff.1 hlines), rfl⟩

/-- With a positive limit the history of a log has as many records as the limit says, the first ones of what it
has with a limit larger than the log, and fails as that does.  A limit of zero reads all of them, which is more
than it says.  The state afterwards does not depend on the limit, and the command line prints the lines of the
records that are read. -/
theorem history_cut_by_limit (path : Option String) (f : History.Filter) {bound : Nat}
    (hbound : AuditLog.IsLarger h path j bound) :
    let read (limit : Nat) := (AuditLog.recent h path f (.int limit)).exec j
    History.Cuts (fun n => (read n).1) (read bound).1 ∧ (∀ n, (read n).2 = (read bound).2) ∧
      (∀ n records, 0 < n → (read n).1 = .ok records → records.length ≤ n) ∧
      (∀ n m records, 0 < n → n ≤ m → (read m).1 = .ok records →
        ∃ fewer, (read n).1 = .ok fewer ∧ fewer <+: records) ∧
      (∀ (d : Netconf.Dialer σ) (i : Invocation) (s : Settings) (node : Option String) (n : Nat),
        i.command = .history node n → i.settings h.environment = .ok s → path = historyPath s →
          f = .ofTexts node none →
            Prints (read n).1 ((run h d i).exec j).1 ∧ ((run h d i).exec j).2 = (read n).2) ∧
      ∀ node n, (∀ name ∈ node, IsPlainWord name) → (natDigits n).length ≤ maxNumeralDigits →
        Invocation.ofArguments (historyArguments node n) = .ok ⟨none, false, .history node n⟩ := by
  intro read
  obtain ⟨hcuts, hjournal⟩ := AuditLog.exec_recent_cuts f hbound
  refine ⟨hcuts, hjournal, fun n records hn => hcuts.length_le hn,
    fun n m records hn hnm => hcuts.exists_prefix hn hnm, ?_,
    fun node n hnode hn => ofArguments_history hnode hn⟩
  rintro d i s node n hi hs rfl rfl
  exact run_history_prints d hi hs j

/-- The record of a push to a port of a device, made on some day. -/
def recordOfDay (day : String) : PushRecord :=
  ⟨.str day, .str "sw", .str "p1", .str "qbv", .null, .str "s", .str "success", .bool false, .null, .null⟩

theorem holds_recordOfDay (day : String) :
    ∃ line, (recordOfDay day).toJson = .ok line ∧ History.Holds (line ++ "\n") [recordOfDay day] :=
  History.holds_toJson (by
    simp [PushRecord.IsJson, PushRecord.fields, recordOfDay, Value.IsJson.str, Value.IsJson.bool,
      Value.IsJson.null])

/-- Of a log with the records of two days, a limit of one reads the second, and a limit of zero reads both. -/
theorem history_cut_by_limit_of_two_days :
    ∃ (log : String) (bound : Nat),
      let j : Journal (List UInt8) := ⟨[], [], log.toUTF8.toList⟩
      let read (limit : Nat) := ((AuditLog.recent .oneFile (some "audit.log") {} (.int limit)).exec j).1
      AuditLog.IsLarger .oneFile (some "audit.log") j bound ∧
        read bound = .ok [recordOfDay "Tuesday", recordOfDay "Monday"] ∧
        read 1 = .ok [recordOfDay "Tuesday"] ∧
        read 0 = .ok [recordOfDay "Tuesday", recordOfDay "Monday"] := by
  obtain ⟨monday, -, hmonday⟩ := holds_recordOfDay "Monday"
  obtain ⟨tuesday, -, htuesday⟩ := holds_recordOfDay "Tuesday"
  have hlog := hmonday.append htuesday
  generalize monday ++ "\n" ++ (tuesday ++ "\n") = log at hlog
  let j : Journal (List UInt8) := ⟨[], [], log.toUTF8.toList⟩
  have htext : (AuditLog.textAt .oneFile (some "audit.log")).exec j = (.ok log, j) := by
    change (match decodeUtf8 log.toUTF8.toList with
      | .ok log => pure log
      | .error e => throw (.fault ⟨.undecodable, e.message⟩) : Action (List UInt8) String).exec j = _
    rw [decodeUtf8_toUTF8]
    rfl
  have hbound : AuditLog.IsLarger .oneFile (some "audit.log") j (History.lineCount log + 2) := by
    intro log' j' hlog'
    obtain ⟨hlog', -⟩ := Prod.mk.inj (htext.symm.trans hlog')
    rw [Except.ok.inj hlog']
    omega
  obtain ⟨hcuts, -⟩ := history_cut_by_limit (some "audit.log") {} hbound
  have hlimit : ((2 : Nat) : Int) ≤ (History.lineCount log + 2 : Nat) := Int.ofNat_le.2 (Nat.le_add_left 2 _)
  have hhas : AuditLog.Has some j.world
      ⟨log.toUTF8.toList.length, [recordOfDay "Monday", recordOfDay "Tuesday"]⟩ := ⟨log, rfl, rfl, hlog⟩
  obtain ⟨j', hrecent, -⟩ := (AuditLog.liesAt_oneFile "audit.log").exec_recent hhas {} hlimit
  have hwhole := congrArg Prod.fst hrecent
  refine ⟨log, _, hbound, hwhole, ?_, hcuts.zero.trans hwhole⟩
  exact (hcuts.positive 1 Nat.one_pos).trans (congrArg (Except.map (List.take 1)) hwhole)

/-- A limit of zero does not leave the first zero records: it leaves all. -/
theorem limit_zero_leaves_all :
    ¬∀ (f : History.Filter) (log : String) (n bound : Nat), History.lineCount log < bound →
      History.recent f (.int n) log = (History.recent f (.int bound) log).map (List.take n) := by
  intro h
  obtain ⟨line, -, hline⟩ := holds_recordOfDay "Monday"
  have hall (limit : Nat) (hlimit : 1 ≤ limit) :
      History.recent {} (.int limit) (line ++ "\n") = .ok [recordOfDay "Monday"] :=
    History.recent_of_holds hline {} (Int.ofNat_le.2 hlimit)
  have hlarge := Nat.lt_succ_self (History.lineCount (line ++ "\n"))
  have hzero := h {} (line ++ "\n") 0 _ hlarge
  rw [(History.cuts_recent {} hlarge).zero, hall _ (Nat.succ_pos _)] at hzero
  cases hzero

end CommandLine

end GateRollout
