import GateRollout.Digest.Sha256
import GateRollout.Json.Printer
import GateRollout.Failure

/-!
# Checksums of documents

A short digest that ties a record to the document that was applied.  It is taken of the canonical
JSON text of the document without its own checksum.
-/

namespace GateRollout.Checksum

/-- The entry that a checksum leaves out. -/
def ownKey : String := "checksum"

/-- The entries that a checksum covers. -/
def covered (entries : Entries) : Entries := entries.filter fun e => !e.1.isText ownKey

/-- The text that is digested. -/
def canonicalText (entries : Entries) : Except Json.WriteFault String :=
  Json.write .canonical (.map (covered entries))

/-- A digest in its short form. -/
def short (digest : String) : String :=
  "sha256:" ++ String.ofList (digest.toList.take 16)

/-- The checksum of a document. -/
def ofDocument (doc : Value) : Except Failure String :=
  match doc with
  | .map entries =>
    match canonicalText entries with
    | .ok s => .ok (short (Digest.sha256Text s))
    | .error f => .error (.fault f.toFault)
  | v => .error (.fault (.noAttribute v.qualifiedTypeName "items"))

end GateRollout.Checksum
