import GateRollout.Proofs.Audit.Lines
import GateRollout.Proofs.Files.Shelf
import GateRollout.Proofs.Text.Utf8
import GateRollout.Audit.Log
import GateRollout.Rollout.Outcome
import Mathlib.Algebra.GroupWithZero.Nat
import Mathlib.Data.List.Forall2

/-!
# The audit log is read back

What is recorded in an audit log is found in its history, whatever the texts of the records hold and whatever
other lines stand between them, until the log starts anew, which it does before a record for whose line it has
no place.  This takes a log that lies in one file, grows by what is written to it, and can be put aside; a file
of a tree does, with the older logs beside it.
-/

namespace GateRollout

variable {σ : Type}

/-! ## Texts of whole lines -/

namespace History

/-- A text consists of whole lines that hold some records, whatever follows it. -/
def Holds (text : String) (records : List PushRecord) : Prop :=
  ∀ rest, recordsIn (text.toList ++ rest) = (do return records ++ (← recordsIn rest))

namespace Holds

theorem nil : Holds "" [] := by
  intro rest
  change recordsIn rest = (do return [] ++ (← recordsIn rest))
  cases recordsIn rest <;> rfl

variable {text more : String} {records records' : List PushRecord}

theorem append (h : Holds text records) (h' : Holds more records') :
    Holds (text ++ more) (records ++ records') := by
  intro rest
  rw [String.toList_append, List.append_assoc, h, h']
  cases recordsIn rest with
  | error f => rfl
  | ok rs => exact congrArg Except.ok (List.append_assoc ..).symm

theorem recordsIn_eq (h : Holds text records) : recordsIn text.toList = .ok records := by
  have hnil := h []
  rw [List.append_nil] at hnil
  rw [hnil]
  exact congrArg Except.ok (List.append_nil _)

theorem line {line : String} (hline : ∀ c ∈ line.toList, ¬IsBreak c) (ending : String)
    (hend : IsLineEnd ending.toList) {r : Option PushRecord} (hr : recordOn? line.toList = .ok r) :
    Holds (line ++ ending) r.toList := by
  intro rest
  rw [String.toList_append, List.append_assoc, recordsIn_line hline hend, hr]
  rfl

end Holds

/-- A record that holds JSON data has a line, which holds the record and nothing else. -/
theorem holds_toJson {r : PushRecord} (h : r.IsJson) :
    ∃ line, r.toJson = .ok line ∧ Holds (line ++ "\n") [r] := by
  obtain ⟨line, hjson, hline, hr⟩ := recordOn?_toJson h
  refine ⟨line, hjson, .line (fun c hc hbreak => ?_) "\n" .feed hr⟩
  have hcode := (hline c hc).1
  rcases hbreak with rfl | rfl
  · exact absurd hcode (by decide)
  · exact absurd hcode (by decide)

/-! ## Filters -/

/-- Records of a device and of a status, where they are given. -/
def Filter.ofTexts (nodeId status : Option String) : Filter :=
  ⟨TargetResult.optionalText nodeId, TargetResult.optionalText status⟩

/-- Whether a text is asked for; where none is asked for, every text is. -/
def isWanted (wanted : Option String) (v : Value) : Bool := wanted.all fun s => s.isEmpty || v.isText s

/-- The records that are asked for by the name of the device and by the status. -/
def wanted (nodeId status : Option String) (records : List PushRecord) : List PushRecord :=
  records.filter fun r => isWanted nodeId r.nodeId && isWanted status r.status

theorem lastItems_of_le {α : Type} {limit : Int} {xs : List α} (h : (xs.length : Int) ≤ limit) :
    lastItems limit xs = xs := by
  rw [lastItems]
  split
  · have hdrop : xs.length - limit.toNat = 0 := by omega
    rw [hdrop, List.drop_zero]
  · have hdrop : (-limit).toNat = 0 := by omega
    rw [hdrop, List.drop_zero]

/-- The history of a text of whole lines has the records that are asked for, the newest first. -/
theorem recent_of_holds {log : String} {records : List PushRecord} (h : Holds log records) (f : Filter)
    {limit : Int}
    (hlimit : ((records.filter f.accepts).length : Int) ≤ limit) :
    recent f (.int limit) log = .ok (records.filter f.accepts).reverse := by
  have haccepted : accepted f log = .ok (records.filter f.accepts) := by
    have hrecords := h.recordsIn_eq
    rw [recordsIn, recordsOn] at hrecords
    obtain ⟨found, hfound, hrecords⟩ := bind_eq_ok.1 hrecords
    rw [accepted, hfound]
    exact congrArg (fun rs => Except.ok (List.filter f.accepts rs)) (Except.ok.inj hrecords)
  rw [recent, haccepted]
  exact congrArg (fun rs => Except.ok (List.reverse rs)) (lastItems_of_le hlimit)

end History

/-! ## Logs on a host -/

namespace AuditLog

/-- The log at a path of a host lies in one file, whose bytes a view of the state shows, grows by what is
added to it, and is empty when it was started anew.  The clock leaves it as it is. -/
structure LiesAt (h : Host σ) (path : String) (bytes : σ → Option (List UInt8)) : Prop where
  has : ∀ j, bytes j.world ≠ none →
    ∃ j', (h.hasFile path).exec j = (.ok true, j') ∧ bytes j'.world = bytes j.world
  reads : ∀ j content, bytes j.world = some content →
    ∃ j', (h.readFile path).exec j = (.ok content, j') ∧ bytes j'.world = bytes j.world
  appends : ∀ j content text, bytes j.world = some content →
    ∃ j', (h.appendFile path text).exec j = (.ok (), j') ∧
      bytes j'.world = some (content ++ text.toUTF8.toList)
  rolls : ∀ j, bytes j.world ≠ none →
    ∃ j', (rollOver h path).exec j = (.ok (), j') ∧ bytes j'.world = some []
  now : h.now.Keeps bytes

variable {h : Host σ} {path : String} {bytes : σ → Option (List UInt8)}

/-- What a log holds: so many bytes, and some records. -/
structure Content where
  size : Nat
  records : List PushRecord

namespace Content

/-- A log that holds nothing. -/
def empty : Content := ⟨0, []⟩

/-- A log to which a text was added that holds some records. -/
def add (log : Content) (text : String) (records : List PushRecord) : Content :=
  ⟨log.size + text.toUTF8.toList.length, log.records ++ records⟩

/-- The line of a record that has one. -/
def lineOf (r : PushRecord) : String := r.toJson.toOption.getD ""

/-- A log in which a record was written: it starts anew where it has no place for the line. -/
def record (log : Content) (r : PushRecord) : Content :=
  (if isFull log.size (lineOf r) then empty else log).add (lineOf r ++ "\n") [r]

section

variable {α : Type} {step : Content → α → Content} {found : α → List PushRecord}

end

end Content

/-- The log of a state consists of whole lines with what is told of it. -/
def Has (bytes : σ → Option (List UInt8)) (world : σ) (log : Content) : Prop :=
  ∃ text, bytes world = some text.toUTF8.toList ∧ text.toUTF8.toList.length = log.size ∧
    History.Holds text log.records

theorem Has.of_eq {world world' : σ} {log : Content} (hhas : Has bytes world log)
    (heq : bytes world' = bytes world) : Has bytes world' log := by
  obtain ⟨text, hbytes, hholds⟩ := hhas
  exact ⟨text, heq.trans hbytes, hholds⟩

theorem has_empty {world : σ} (hempty : bytes world = some []) : Has bytes world .empty := by
  have hnothing : "".toUTF8.toList = [] := by
    rw [Text.toUTF8_toList]
    rfl
  exact ⟨"", by rw [hempty, hnothing], by rw [hnothing]; rfl, .nil⟩

/-- A text that is added to a log adds the records that it holds. -/
theorem LiesAt.exec_appendFile (hl : LiesAt h path bytes) {j : Journal σ} {log : Content}
    {more : List PushRecord} (hj : Has bytes j.world log) {text : String} (htext : History.Holds text more) :
    ∃ j', (h.appendFile path text).exec j = (.ok (), j') ∧ Has bytes j'.world (log.add text more) := by
  obtain ⟨old, hbytes, hsize, hholds⟩ := hj
  obtain ⟨j', hexec, hbytes'⟩ := hl.appends j _ text hbytes
  refine ⟨j', hexec, old ++ text, ?_, ?_, hholds.append htext⟩
  · rw [hbytes', Text.toUTF8_append]
  · rw [Text.toUTF8_append, List.length_append, hsize]
    rfl

theorem LiesAt.exec_recent (hl : LiesAt h path bytes) {j : Journal σ} {log : Content}
    (hj : Has bytes j.world log) (f : History.Filter) {limit : Int}
    (hlimit : ((log.records.filter f.accepts).length : Int) ≤ limit) :
    ∃ j', (recent h (some path) f (.int limit)).exec j = (.ok (log.records.filter f.accepts).reverse, j') ∧
      bytes j'.world = bytes j.world := by
  obtain ⟨text, hbytes, -, hholds⟩ := hj
  obtain ⟨j₁, hhas, hbytes₁⟩ := hl.has j (by rw [hbytes]; nofun)
  obtain ⟨j₂, hread, hbytes₂⟩ := hl.reads j₁ _ (hbytes₁.trans hbytes)
  refine ⟨j₂, ?_, hbytes₂.trans hbytes₁⟩
  rw [recent, Option.getD_some, Action.exec_bind_ok hhas, if_pos rfl, Action.exec_bind_ok hread,
    Text.decodeUtf8_toUTF8]
  exact congrArg (fun r => (r, j₂)) (History.recent_of_holds hholds f hlimit)

/-! ## Pushes -/

/-- What is told of a push in order to record it. -/
structure Push where
  nodeId : String
  interface : String
  feature : String
  plugin : Option String
  scheduleId : String
  status : String
  dryRun : Bool
  checksum : Option String
  error : Option String

open TargetResult (optionalText)

/-- The named values of a push. -/
def Push.entries (p : Push) : Entries :=
  Entries.named
    [("node_id", .str p.nodeId), ("interface", .str p.interface), ("feature", .str p.feature),
      ("plugin", optionalText p.plugin), ("schedule_id", .str p.scheduleId), ("status", .str p.status),
      ("dry_run", .bool p.dryRun), ("intent_checksum", optionalText p.checksum),
      ("error", optionalText p.error)]

/-- The part of an error that is noted: the beginning of one that is not empty. -/
def notedError (error : Option String) : Option String :=
  (error.filter fun s => !s.isEmpty).map fun s => String.ofList (s.toList.take 1000)

/-- The record of a push that was made at a point in time. -/
def Push.record (p : Push) (now : DateTime) : PushRecord where
  timestamp := .str (now.textWith 'T')
  nodeId := .str p.nodeId
  interface := .str p.interface
  feature := .str p.feature
  plugin := optionalText p.plugin
  scheduleId := .str p.scheduleId
  status := .str p.status
  dryRun := .bool p.dryRun
  checksum := optionalText p.checksum
  error := optionalText (notedError p.error)

theorem cutError_optionalText (error : Option String) :
    PushRecord.cutError (optionalText error) = .ok (optionalText (notedError error)) := by
  cases error with
  | none => rfl
  | some s =>
    change (if (!(!s.isEmpty)) = true then _ else _) = _
    rw [notedError, Option.filter_some]
    cases s.isEmpty <;> rfl

theorem isJson_optionalText (s : Option String) : (optionalText s).IsJson := by
  cases s with
  | none => exact .null
  | some s => exact .str s

/-- What goes wrong with a log keeps nothing from going on. -/
theorem succeeds_write (h : Host σ) (path line : String) : (write h path line).Succeeds := fun j =>
  ⟨_, _, Action.exec_bind_ok (Action.exec_attempt _ j) _⟩

/-- Writing the line of a record that is JSON data writes the record. -/
theorem LiesAt.exec_write (hl : LiesAt h path bytes) {j : Journal σ} {log : Content}
    (hj : Has bytes j.world log) {r : PushRecord} (hr : r.IsJson) :
    ∃ line j', r.toJson = .ok line ∧ (write h path line).exec j = (.ok (), j') ∧
      Has bytes j'.world (log.record r) := by
  obtain ⟨line, hjson, hline⟩ := History.holds_toJson hr
  have hlineOf : Content.lineOf r = line := by rw [Content.lineOf, hjson]; rfl
  have hsome : bytes j.world ≠ none := by
    obtain ⟨text, hbytes, -⟩ := hj
    rw [hbytes]
    nofun
  obtain ⟨text, hbytes, hsize, -⟩ := id hj
  obtain ⟨j₁, hread, hbytes₁⟩ := hl.reads j _ hbytes
  -- the line is added to what the log held, or to nothing where the log was started anew
  obtain ⟨j₂, hrolls, hj₂⟩ : ∃ j₂,
      (if isFull text.toUTF8.toList.length line then rollOver h path else pure ()).exec j₁ = (.ok (), j₂) ∧
      Has bytes j₂.world (if isFull log.size line then .empty else log) := by
    rw [hsize]
    split
    · obtain ⟨j₂, hexec, hempty⟩ := hl.rolls j₁ (hbytes₁ ▸ hsome)
      exact ⟨j₂, hexec, has_empty hempty⟩
    · exact ⟨j₁, rfl, hj.of_eq hbytes₁⟩
  obtain ⟨j', hexec, hj'⟩ := hl.exec_appendFile hj₂ hline
  refine ⟨line, j', hjson, ?_, by rwa [Content.record, hlineOf]⟩
  have hwritten : (do
      if isFull (← h.readFile path).length line then rollOver h path
      h.appendFile path (line ++ "\n")).exec j = (.ok (), j') := by
    rw [Action.exec_bind_ok hread]
    split
    · case isTrue hfull =>
      rw [if_pos hfull] at hrolls
      rw [Action.exec_bind_ok hrolls, hexec]
    · case isFalse hfull =>
      rw [if_neg hfull] at hrolls
      obtain rfl : j₁ = j₂ := (Prod.mk.inj hrolls).2
      exact hexec
  rw [write, Action.exec_bind_ok (Action.exec_attempt _ j), hwritten]
  rfl

/-- The clock of a host tells a point in time. -/
def TellsTime (h : Host σ) (now : DateTime) : Prop := ∃ j j', h.now.exec j = (.ok now, j')

/-- What is written to a log: a push is recorded, or a line of other text is added. -/
inductive Item where
  | push (p : Push)
  | other (line ending : String)

/-- Write an item to the log at a path; the result is the record of a push. -/
def Item.write (h : Host σ) (path : String) : Item → Action σ (Option PushRecord)
  | push p => do return some (← record h path p.entries)
  | other line ending => do
    h.appendFile path (line ++ ending)
    return none

/-- What writing an item gives: the record of a push, made at a time that the clock told, or nothing. -/
def Item.Gives (h : Host σ) : Item → Option PushRecord → Prop
  | push p, r => ∃ now, TellsTime h now ∧ r = some (p.record now)
  | other _ _, r => r = none

/-- The text that an item adds to a log, where a record or nothing came of it. -/
def Item.text : Item → Option PushRecord → String
  | push _, r => r.elim "" fun r => Content.lineOf r ++ "\n"
  | other line ending, _ => line ++ ending

/-- A log after an item was written to it, of which came a record or nothing. -/
def Content.after (log : Content) (item : Item) (r : Option PushRecord) : Content :=
  match item, r with
  | .push _, some r => log.record r
  | item, r => log.add (item.text r) r.toList

/-- The log at a path and the older logs. -/
def paths (path : String) : List String := path :: (List.range backupCount).map fun n => backup path (n + 1)

/-- The log at a path lies in a directory, and so do the older ones. -/
def IsShelved (t : FileTree) (path : String) : Prop := ∃ dir name, t.Shelf dir name (paths path)

/-- What the log at a path of a tree holds, where it is shelved. -/
noncomputable def bytesIn (get : σ → FileTree) (path : String) (world : σ) : Option (List UInt8) :=
  open Classical in if IsShelved (get world) path then ((get world).read path).toOption else none

theorem bytesIn_eq_some {get : σ → FileTree} {world : σ} {content : List UInt8} :
    bytesIn get path world = some content ↔ IsShelved (get world) path ∧ (get world).read path = .ok content := by
  rw [bytesIn]
  split
  · case isTrue h =>
    cases (get world).read path <;> simp [h, Except.toOption]
  · case isFalse h => simp [h]

theorem backup_injective {path : String} {m n : Nat} (h : backup path m = backup path n) : m = n := by
  have hlist := congrArg String.toList h
  simp only [backup, String.toList_append, Text.natText, String.toList_ofList, List.append_cancel_left_eq] at hlist
  exact Text.natDigits_injective hlist

theorem ne_backup (path : String) (n : Nat) : path ≠ backup path n := by
  intro h
  have hlength := congrArg (fun s => s.toList.length) h
  simp [backup, String.toList_append] at hlength

theorem mem_paths (path : String) : path ∈ paths path := List.mem_cons_self

theorem backup_mem_paths (path : String) {n : Nat} (h : n < backupCount) : backup path (n + 1) ∈ paths path :=
  List.mem_cons_of_mem _ (List.mem_map_of_mem (List.mem_range.2 h))

section

variable {get : σ → FileTree} {set : FileTree → σ → σ} (hset : ∀ t world, get (set t world) = t)
  (environment : Environment) (home directory : String) (clock : Action σ Number) (now : Action σ DateTime)
  (read : DocumentReader)

include hset

/-- A file of a shelf that is there takes the place of another; the shelf stays one. -/
theorem exec_moveIfThere {dir : List String} {name : String → String} {all : List String} {j : Journal σ}
    (hshelf : (get j.world).Shelf dir name all) {p q : String} (hp : p ∈ all) (hq : q ∈ all) (hne : p ≠ q) :
    ∃ j', (moveIfThere (.ofTree get set environment home directory clock now read) p q).exec j = (.ok (), j') ∧
      (get j'.world).Shelf dir name all ∧ (get j'.world).find? (dir ++ [name p]) = none := by
  have hhas : ((Host.ofTree get set environment home directory clock now read).hasFile p).exec j =
      (.ok ((get j.world).contains p), j) := rfl
  rw [moveIfThere, Action.exec_bind_ok hhas, hshelf.contains hp]
  cases hentry : (get j.world).find? (dir ++ [name p]) with
  | none => exact ⟨j, rfl, hshelf, hentry⟩
  | some e =>
    obtain ⟨t, hmove, hshelf', hnone⟩ := hshelf.move hp hq hne (by rw [hentry]; rfl)
    refine ⟨{ j with world := set t j.world }, ?_, ?_⟩
    · rw [if_pos (by rfl)]
      refine (Action.exec_bind_ok (Action.exec_world j) _).trans ?_
      beta_reduce
      rw [hmove]
      rfl
    · rw [hset]
      exact ⟨hshelf', hnone⟩

omit hset in
theorem exec_appendFile_ofTree {j : Journal σ} {p text : String} {t : FileTree}
    (happend : (get j.world).append p text.toUTF8.toList = .ok t) :
    ((Host.ofTree get set environment home directory clock now read).appendFile p text).exec j =
      (.ok (), { j with world := set t j.world }) := by
  refine (Action.exec_bind_ok (Action.exec_world j) _).trans ?_
  beta_reduce
  rw [happend]
  rfl

/-- A log in a tree of files is one that lies at its path, with the older ones beside it. -/
theorem liesAt_ofTree {now : Action σ DateTime} (hnow : now.Keeps (bytesIn get path)) :
    LiesAt (.ofTree get set environment home directory clock now read) path (bytesIn get path) where
  has j hj := by
    obtain ⟨content, hbytes⟩ := Option.ne_none_iff_exists'.1 hj
    obtain ⟨⟨dir, name, hshelf⟩, hread⟩ := bytesIn_eq_some.1 hbytes
    have hcontains : (get j.world).contains path = true := by
      rw [hshelf.contains (mem_paths path), hshelf.entry_of_read (mem_paths path) hread]
      rfl
    exact ⟨j, by rw [← hcontains]; rfl, rfl⟩
  reads j content hbytes := by
    refine ⟨j, (Action.exec_bind_ok (Action.exec_world j) _).trans ?_, rfl⟩
    rw [(bytesIn_eq_some.1 hbytes).2]
    rfl
  appends j content text hbytes := by
    obtain ⟨⟨dir, name, hshelf⟩, hread⟩ := bytesIn_eq_some.1 hbytes
    obtain ⟨t, happend, hshelf', hread'⟩ := hshelf.append (mem_paths path) text.toUTF8.toList
    rw [hshelf.entry_of_read (mem_paths path) hread] at hread'
    refine ⟨{ j with world := set t j.world },
      exec_appendFile_ofTree environment home directory clock now read happend, ?_⟩
    rw [bytesIn_eq_some, hset]
    exact ⟨⟨dir, name, hshelf'⟩, hread'⟩
  rolls j hj := by
    obtain ⟨content, hbytes⟩ := Option.ne_none_iff_exists'.1 hj
    obtain ⟨⟨dir, name, hshelf⟩, -⟩ := bytesIn_eq_some.1 hbytes
    have hmove := fun (j : Journal σ) (hj : (get j.world).Shelf dir name (paths path)) =>
      @exec_moveIfThere _ _ _ hset environment home directory clock now read dir name (paths path) j hj
    -- the older logs make place for each other, and the newest of them for the log
    have hsteps : ∀ n ∈ (List.range (backupCount - 1)).reverse, ∀ j : Journal σ,
        (get j.world).Shelf dir name (paths path) → ∃ j',
          (moveIfThere (.ofTree get set environment home directory clock now read) (backup path (n + 1))
            (backup path (n + 2))).exec j = (.ok (), j') ∧ (get j'.world).Shelf dir name (paths path) := by
      intro n hn j hj
      have hlt : n + 1 < backupCount := Nat.add_lt_of_lt_sub (List.mem_range.1 (List.mem_reverse.1 hn))
      obtain ⟨j', hexec, hshelf', -⟩ := hmove j hj (backup_mem_paths path (Nat.lt_of_succ_lt hlt))
        (backup_mem_paths path hlt) fun h => absurd (backup_injective h) (by omega)
      exact ⟨j', hexec, hshelf'⟩
    obtain ⟨j₁, hmoves, hshelf₁⟩ := Action.exec_forM hsteps hshelf
    obtain ⟨j₂, hmove₂, hshelf₂, hnone⟩ := hmove j₁ hshelf₁ (mem_paths path)
      (backup_mem_paths path (by decide)) (ne_backup path 1)
    obtain ⟨t, happend, hshelf', hread'⟩ := hshelf₂.append (mem_paths path) "".toUTF8.toList
    rw [hnone] at hread'
    refine ⟨{ j₂ with world := set t j₂.world }, ?_, ?_⟩
    · rw [rollOver, Action.exec_bind_ok hmoves, Action.exec_bind_ok hmove₂]
      exact exec_appendFile_ofTree environment home directory clock now read happend
    · rw [bytesIn_eq_some, hset]
      exact ⟨⟨dir, name, hshelf'⟩, by rw [hread', Text.toUTF8_toList]; rfl⟩
  now := hnow

end

theorem liesAt_oneFile (path : String) : LiesAt .oneFile path some where
  has j _ := ⟨j, rfl, rfl⟩
  reads j content h := ⟨j, by rw [← Option.some.inj h]; rfl, rfl⟩
  appends j content text h :=
    ⟨{ j with world := j.world ++ text.toUTF8.toList }, rfl, by rw [← Option.some.inj h]⟩
  rolls j _ := ⟨{ j with world := [] ++ "".toUTF8.toList }, rfl, by rw [Text.toUTF8_toList]; rfl⟩
  now j := ⟨_, j, rfl, rfl⟩

end AuditLog

end GateRollout
