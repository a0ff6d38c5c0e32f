import GateRollout.Main
import GateRollout.LogSetup
import GateRollout.Proofs.Rollout.Interleaving
import GateRollout.Proofs.Rollout.Cancellation
import GateRollout.Proofs.Transport.Sessions
import GateRollout.Proofs.Mapping.Rendering
import GateRollout.Proofs.Audit.Readable
import GateRollout.Proofs.Audit.Record
import GateRollout.Proofs.Rollout.FanOut
import GateRollout.Proofs.Mapping.Table
import GateRollout.Proofs.Mapping.Variants
import GateRollout.Proofs.Rollout.Agreement
import GateRollout.Proofs.Inventory.Precedence
import GateRollout.Proofs.Markup.Encoded
import GateRollout.Proofs.Schedule.Reading
import GateRollout.Proofs.Rollout.Trace
import GateRollout.Proofs.Digest.Checksum
import GateRollout.Proofs.Inventory.Models
import GateRollout.Proofs.Service.Reporting
import GateRollout.Proofs.Mapping.Dialects
import GateRollout.Proofs.Text.Hex
import GateRollout.Proofs.Schedule.Spelling
import GateRollout.Proofs.Markup.CharData
import GateRollout.Proofs.Markup.Tags
import GateRollout.Proofs.Mapping.LegacyPayload
import GateRollout.Proofs.Markup.Rendered
import GateRollout.Proofs.Mapping.StandardPayload
import GateRollout.Proofs.Json.Tokens
import GateRollout.Proofs.Json.Data
import GateRollout.Proofs.Json.ReadBack
import GateRollout.Proofs.Json.Canonical
import GateRollout.Proofs.Json.OneLine
import GateRollout.Proofs.Digest.Identity
import GateRollout.Proofs.Text.Utf8
import GateRollout.Proofs.Files.Shelf
import GateRollout.Proofs.Audit.Lines
import GateRollout.Proofs.Audit.History
import GateRollout.Proofs.Rollout.Frame
import GateRollout.Proofs.Audit.Limit
import GateRollout.Proofs.Audit.Rollout
import GateRollout.Proofs.Transport.Discipline
import GateRollout.Proofs.Yaml.Keys
import GateRollout.Proofs.Inventory.Faults
import GateRollout.Proofs.Mapping.Ranking
import GateRollout.Proofs.Mapping.Registration
import GateRollout.Proofs.Mapping.Selection
import GateRollout.Proofs.Mapping.Exclusion
import GateRollout.Proofs.Mapping.Capabilities
import GateRollout.Proofs.Rollout.Told
import GateRollout.Proofs.Rollout.Report
import GateRollout.Proofs.Service.Arguments
import GateRollout.Proofs.Service.ExitCodes
import GateRollout.Proofs.Markup.Contexts
import GateRollout.Proofs.Markup.Qualified
import GateRollout.Proofs.Markup.GateEntry
import GateRollout.Proofs.Transport.Families
import GateRollout.Proofs.Transport.Waits
import GateRollout.Proofs.Transport.Attempts
import GateRollout.Proofs.Schedule.Counting
import GateRollout.Proofs.Mapping.Refusal
import GateRollout.Proofs.Inventory.Naming
import GateRollout.Proofs.Text.Lower
import GateRollout.Proofs.Schedule.MarkedHex
import GateRollout.Proofs.Schedule.GateStates
import GateRollout.Proofs.Mapping.Protocols
import GateRollout.Proofs.Mapping.Additions
import GateRollout.Proofs.Service.ApplyArguments
import GateRollout.Proofs.Service.Workers
import GateRollout.Proofs.Markup.Indentation
import GateRollout.Proofs.Markup.Composition
