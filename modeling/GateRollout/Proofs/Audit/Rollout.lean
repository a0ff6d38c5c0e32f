import GateRollout.Proofs.Audit.History
import GateRollout.Proofs.Rollout.Frame
import GateRollout.Proofs.Rollout.Trace

/-!
# The history of rollouts

A rollout that returns has written one record a result to its audit log, and the history of the log begins with
them, or with those for which the log has not started anew since.
-/

namespace GateRollout

open TargetResult (optionalText)

variable {σ : Type} {h : Host σ} {path : String} {bytes : σ → Option (List UInt8)}

namespace AuditLog

/-- A record tells of a result: where, by which plugin, what became of it, and the noted part of its error. -/
structure IsRecordOf (r : TargetResult) (record : PushRecord) : Prop where
  nodeId : record.nodeId = r.nodeId
  interface : record.interface = .str r.interface
  plugin : record.plugin = optionalText r.plugin
  status : record.status = .str r.status.name
  error : record.error = optionalText (notedError r.error)

/-- What a rollout tells of all its results alike is JSON data. -/
structure IsTold (intent : Intent) (options : RunOptions) : Prop where
  feature : intent.feature.IsJson
  scheduleId : intent.scheduleId.IsJson
  checksum : options.checksum.IsJson

variable {intent : Intent} {options : RunOptions}

theorem auditRecord_ok (htold : IsTold intent options) (now : DateTime) {r : TargetResult}
    (hid : r.nodeId.IsJson) :
    ∃ record, Engine.auditRecord now intent options r = .ok record ∧ record.IsJson ∧ IsRecordOf r record := by
  refine ⟨_, by rw [Engine.auditRecord, cutError_optionalText]; rfl, ?_, rfl, rfl, rfl, rfl, rfl⟩
  have hfeature : (if intent.feature.isGiven then intent.feature else .str intent.typeName).IsJson := by
    split
    · exact htold.feature
    · exact .str _
  simp [PushRecord.IsJson, PushRecord.fields, Value.IsJson.str, Value.IsJson.bool, isJson_optionalText, hid,
    htold.scheduleId, htold.checksum, hfeature]

variable {e : Engine σ}

/-- An engine writes to the log at a path of a host, and its other parts leave the log alone. -/
structure WritesTo (h : Host σ) (path : String) (bytes : σ → Option (List UInt8)) (e : Engine σ) : Prop where
  audit : e.audit = write h path
  now : e.now.Keeps bytes
  others : e.Leaves bytes

theorem LiesAt.exec_auditResult (hl : LiesAt h path bytes) (he : WritesTo h path bytes e)
    (htold : IsTold intent options) {r : TargetResult} (hid : r.nodeId.IsJson) {j : Journal σ}
    {log : Content} (hj : Has bytes j.world log) :
    ∃ record j', (e.auditResult intent options r).exec j = (.ok (), j') ∧ IsRecordOf r record ∧
      Has bytes j'.world (log.record record) := by
  obtain ⟨now, j₁, hnow, hbytes⟩ := he.now j
  obtain ⟨record, hrecord, hjson, hof⟩ := auditRecord_ok htold now hid
  obtain ⟨line, j', hline, hwrite, hj'⟩ := hl.exec_write (hj.of_eq hbytes) hjson
  refine ⟨record, j', ?_, hof, hj'⟩
  rw [Engine.auditResult, Action.exec_bind_ok hnow, hrecord,
    Action.exec_bind_ok (Action.exec_ofExcept _ j₁), hline, Action.exec_bind_ok (Action.exec_ofExcept _ j₁),
    he.audit, hwrite]

/-- A log in which records were written. -/
def Content.recordAll (log : Content) (records : List PushRecord) : Content := records.foldl record log

/-- Recording results writes one record a result. -/
theorem LiesAt.exec_auditAll (hl : LiesAt h path bytes) (he : WritesTo h path bytes e)
    (htold : IsTold intent options) {results : List TargetResult} (hids : ∀ r ∈ results, r.nodeId.IsJson)
    {j : Journal σ} {log : Content} (hj : Has bytes j.world log) :
    ∃ new j', (e.auditAll intent options results).exec j = (.ok (), j') ∧
      List.Forall₂ IsRecordOf results new ∧ Has bytes j'.world (log.recordAll new) := by
  induction results generalizing j log with
  | nil => exact ⟨[], j, rfl, .nil, hj⟩
  | cons r results ih =>
    obtain ⟨hid, hids⟩ := List.forall_mem_cons.1 hids
    obtain ⟨record, j₁, hexec, hof, hj₁⟩ := hl.exec_auditResult he htold hid hj
    obtain ⟨new, j', hrest, hnew, hj'⟩ := ih hids hj₁
    refine ⟨record :: new, j', ?_, .cons hof hnew, hj'⟩
    rw [Engine.auditAll_cons, Action.exec_bind_ok hexec, hrest]

end AuditLog

end GateRollout
