import RedemptionRelay.Activity
import RedemptionRelay.Amount
import RedemptionRelay.Attestation
import RedemptionRelay.Batch
import RedemptionRelay.Chain
import RedemptionRelay.Chain.Adaptation
import RedemptionRelay.CommandLine
import RedemptionRelay.Configuration
import RedemptionRelay.FileTree
import RedemptionRelay.FileTree.Database
import RedemptionRelay.FileTree.Place
import RedemptionRelay.Floating
import RedemptionRelay.Http
import RedemptionRelay.Http.Offline
import RedemptionRelay.Http.Url
import RedemptionRelay.Http.Url.Domain
import RedemptionRelay.Http.Url.Escape
import RedemptionRelay.Http.Url.Host
import RedemptionRelay.Http.Url.Path
import RedemptionRelay.Intake
import RedemptionRelay.Intake.Channel
import RedemptionRelay.Json.Document
import RedemptionRelay.Json.Fault
import RedemptionRelay.Json.Shape
import RedemptionRelay.Json.Tree
import RedemptionRelay.Json.Value
import RedemptionRelay.Json.Writer
import RedemptionRelay.LogLine
import RedemptionRelay.Main
import RedemptionRelay.Milestone
import RedemptionRelay.Policy
import RedemptionRelay.Redemption
import RedemptionRelay.Redemption.Editing
import RedemptionRelay.Redemption.Json
import RedemptionRelay.Rehearsal
import RedemptionRelay.Rehearsal.Fault
import RedemptionRelay.Rehearsal.Pair
import RedemptionRelay.Rehearsal.Running
import RedemptionRelay.Rehearsal.Script
import RedemptionRelay.RelayError
import RedemptionRelay.Service
import RedemptionRelay.Settlement
import RedemptionRelay.Statistics
import RedemptionRelay.Status
import RedemptionRelay.Store
import RedemptionRelay.Store.Memory
import RedemptionRelay.Store.Table
import RedemptionRelay.Store.Table.Affinity
import RedemptionRelay.Store.Table.Column
import RedemptionRelay.Store.Table.Row
import RedemptionRelay.Text.Alphanumeric
import RedemptionRelay.Text.Base64
import RedemptionRelay.Text.Blank
import RedemptionRelay.Text.Bytes
import RedemptionRelay.Text.Composition
import RedemptionRelay.Text.Decimal
import RedemptionRelay.Text.Digits
import RedemptionRelay.Text.Duration
import RedemptionRelay.Text.Folding
import RedemptionRelay.Text.Hex
import RedemptionRelay.Text.Mark
import RedemptionRelay.Text.Punycode
import RedemptionRelay.Text.Ranges
import RedemptionRelay.Text.Timestamp
import RedemptionRelay.Text.Utf8
import RedemptionRelay.Text.Word
import RedemptionRelay.VariableFile
import RedemptionRelay.Width
import RedemptionRelay.Proofs.Activity
import RedemptionRelay.Proofs.Amount
import RedemptionRelay.Proofs.Amount.Display
import RedemptionRelay.Proofs.Amount.Reading
import RedemptionRelay.Proofs.Answers
import RedemptionRelay.Proofs.Attestation.Lookup
import RedemptionRelay.Proofs.Attestation.Response
import RedemptionRelay.Proofs.Calm
import RedemptionRelay.Proofs.Calm.Attempt
import RedemptionRelay.Proofs.Calm.Batch
import RedemptionRelay.Proofs.Calm.Undecodable
import RedemptionRelay.Proofs.Chain.Adaptation
import RedemptionRelay.Proofs.Chain.Canonical
import RedemptionRelay.Proofs.Chain.Faithfulness
import RedemptionRelay.Proofs.Chain.Listing
import RedemptionRelay.Proofs.Chain.Meaning
import RedemptionRelay.Proofs.CommandLine.Arguments
import RedemptionRelay.Proofs.CommandLine.Signer
import RedemptionRelay.Proofs.Configuration.Lease
import RedemptionRelay.Proofs.Course
import RedemptionRelay.Proofs.Decision
import RedemptionRelay.Proofs.Fleet
import RedemptionRelay.Proofs.Fleet.Budget
import RedemptionRelay.Proofs.Fleet.Chronology
import RedemptionRelay.Proofs.Fleet.Coherence
import RedemptionRelay.Proofs.Fleet.Consistency
import RedemptionRelay.Proofs.Fleet.Delivery
import RedemptionRelay.Proofs.Fleet.Diligence
import RedemptionRelay.Proofs.Fleet.Discipline
import RedemptionRelay.Proofs.Fleet.Errands
import RedemptionRelay.Proofs.Fleet.Exclusion
import RedemptionRelay.Proofs.Fleet.History
import RedemptionRelay.Proofs.Fleet.Integrity
import RedemptionRelay.Proofs.Fleet.Journal
import RedemptionRelay.Proofs.Fleet.Lines
import RedemptionRelay.Proofs.Fleet.Omission
import RedemptionRelay.Proofs.Fleet.Protection
import RedemptionRelay.Proofs.Fleet.Provenance
import RedemptionRelay.Proofs.Fleet.Reception
import RedemptionRelay.Proofs.Fleet.Replay
import RedemptionRelay.Proofs.Fleet.Retention
import RedemptionRelay.Proofs.Fleet.Settling
import RedemptionRelay.Proofs.Fleet.Steps
import RedemptionRelay.Proofs.Fleet.Thrift
import RedemptionRelay.Proofs.Fleet.Widths
import RedemptionRelay.Proofs.Http.Form
import RedemptionRelay.Proofs.Http.Query
import RedemptionRelay.Proofs.Intake.Channel
import RedemptionRelay.Proofs.Intake.Delivery
import RedemptionRelay.Proofs.Intake.Shutdown
import RedemptionRelay.Proofs.Json.Document
import RedemptionRelay.Proofs.Json.Number
import RedemptionRelay.Proofs.Json.RoundTrip
import RedemptionRelay.Proofs.Json.Structure
import RedemptionRelay.Proofs.LogLine
import RedemptionRelay.Proofs.Milestone
import RedemptionRelay.Proofs.Redemption.Account
import RedemptionRelay.Proofs.Redemption.Allowance
import RedemptionRelay.Proofs.Redemption.Budget
import RedemptionRelay.Proofs.Redemption.Changes
import RedemptionRelay.Proofs.Redemption.Chronology
import RedemptionRelay.Proofs.Redemption.Consistency
import RedemptionRelay.Proofs.Redemption.Documents
import RedemptionRelay.Proofs.Redemption.Editing
import RedemptionRelay.Proofs.Redemption.Retention
import RedemptionRelay.Proofs.Redemption.RoundTrip
import RedemptionRelay.Proofs.Redemption.Succession
import RedemptionRelay.Proofs.Redemption.Traces
import RedemptionRelay.Proofs.Rough
import RedemptionRelay.Proofs.Rough.Attendance
import RedemptionRelay.Proofs.Rough.Fate
import RedemptionRelay.Proofs.Rough.Isolation
import RedemptionRelay.Proofs.Rough.Recovery
import RedemptionRelay.Proofs.Rough.Report
import RedemptionRelay.Proofs.Rough.Still
import RedemptionRelay.Proofs.Service
import RedemptionRelay.Proofs.Service.Independence
import RedemptionRelay.Proofs.Service.Stopping
import RedemptionRelay.Proofs.Service.Termination
import RedemptionRelay.Proofs.Settlement.Request
import RedemptionRelay.Proofs.Settlement.Response
import RedemptionRelay.Proofs.Store.Incarnation
import RedemptionRelay.Proofs.Store.Interchange
import RedemptionRelay.Proofs.Store.Lawful
import RedemptionRelay.Proofs.Store.Listing
import RedemptionRelay.Proofs.Store.Mirror
import RedemptionRelay.Proofs.Store.Rows
import RedemptionRelay.Proofs.Store.Statistics
import RedemptionRelay.Proofs.Store.Undecodable
import RedemptionRelay.Proofs.Text.Base64
import RedemptionRelay.Proofs.Text.Blank
import RedemptionRelay.Proofs.Text.Digits
import RedemptionRelay.Proofs.Text.Hex
import RedemptionRelay.Redemption.Editing
