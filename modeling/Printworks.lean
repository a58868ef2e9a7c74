import Printworks.Access
import Printworks.CommandLine.Arguments
import Printworks.CommandLine.Folder
import Printworks.CommandLine.Response
import Printworks.CommandLine.Run
import Printworks.Context
import Printworks.Contract.Basic
import Printworks.Contract.Binding
import Printworks.Contract.Coercion
import Printworks.Contract.Document
import Printworks.Contract.Slot
import Printworks.Contract.Violation
import Printworks.Decimal.Arithmetic
import Printworks.Decimal.Double
import Printworks.Decimal.Reading
import Printworks.Decimal.Shortest
import Printworks.Decimal.Writing
import Printworks.Definition.Basic
import Printworks.Definition.Declaration
import Printworks.Dict
import Printworks.Execution.Config
import Printworks.Execution.Event
import Printworks.Execution.Report
import Printworks.Execution.State
import Printworks.FileName.Comparison
import Printworks.FileName.Computation
import Printworks.FileName.Datum
import Printworks.FileName.Evaluation
import Printworks.FileName.Expression
import Printworks.FileName.Filter
import Printworks.FileName.Literal
import Printworks.FileName.Render
import Printworks.FileName.Template
import Printworks.FileName.Test
import Printworks.FileName.Token
import Printworks.Graph.Basic
import Printworks.Graph.Cache
import Printworks.Graph.Cycle
import Printworks.Graph.Edges
import Printworks.Graph.Error
import Printworks.Graph.Order
import Printworks.Graph.Producers
import Printworks.Hash.Sha256
import Printworks.Job.Completion
import Printworks.Job.Error
import Printworks.Job.Inquiry
import Printworks.Job.Manager
import Printworks.Job.Record
import Printworks.Job.Result
import Printworks.Job.State
import Printworks.Job.Status
import Printworks.Job.Task
import Printworks.Job.Template
import Printworks.Json.Basic
import Printworks.Json.Printer
import Printworks.Json.Reader
import Printworks.Json.Schema
import Printworks.Json.Shape
import Printworks.Main
import Printworks.Pipeline
import Printworks.Registry.Basic
import Printworks.Registry.Faulty
import Printworks.Registry.Memory
import Printworks.Registry.Record
import Printworks.Registry.Table
import Printworks.Rehearsal.Clockwork
import Printworks.Rehearsal.Desk
import Printworks.Rehearsal.Document
import Printworks.Rehearsal.Floor
import Printworks.Rehearsal.Office
import Printworks.Rehearsal.Script
import Printworks.Rehearsal.Trial
import Printworks.Stage.Error
import Printworks.Stage.Inquiry
import Printworks.Stage.Spec
import Printworks.Stage.Workspace
import Printworks.Suffixes
import Printworks.Text.Blank
import Printworks.Text.Case
import Printworks.Text.CaseTable
import Printworks.Text.CodeUnit
import Printworks.Text.Printable
import Printworks.Text.Quoted
import Printworks.Text.Ranges
import Printworks.Time.Calendar
import Printworks.Time.Instant
import Printworks.Time.Reading
import Printworks.Value.Basic
import Printworks.Value.Tagged
import Printworks.ValueType
import Printworks.Proofs.Access
import Printworks.Proofs.Context
import Printworks.Proofs.Context.History
import Printworks.Proofs.CommandLine.Validation
import Printworks.Proofs.Graph.Cache
import Printworks.Proofs.Execution.Account
import Printworks.Proofs.Execution.Determinism
import Printworks.Proofs.Execution.Discipline
import Printworks.Proofs.Execution.Cancellation
import Printworks.Proofs.Execution.Outputs
import Printworks.Proofs.Execution.Provenance
import Printworks.Proofs.Execution.Results
import Printworks.Proofs.Graph.Defects
import Printworks.Proofs.Graph.Least
import Printworks.Proofs.Graph.Satisfiable
import Printworks.Proofs.Job.Persistence
import Printworks.Proofs.Job.Workshop
import Printworks.Proofs.Job.Table
import Printworks.Proofs.Job.Ending
import Printworks.Proofs.Job.Shutdown
import Printworks.Proofs.Rehearsal.Floor
import Printworks.Proofs.Job.Template
import Printworks.Proofs.Definition.Declaration
import Printworks.Proofs.Job.Admission
import Printworks.Proofs.Registry.Interchange
import Printworks.Proofs.Contract.Violations
import Printworks.Proofs.Execution.Chronicle
import Printworks.Proofs.Contract.Agreement
import Printworks.Proofs.Graph.Cycle
import Printworks.Proofs.Graph.Edges
import Printworks.Proofs.Contract.Groups
import Printworks.Proofs.Contract.Resubmission
import Printworks.Proofs.Definition.Decoding
import Printworks.Proofs.Job.RoundTrip
import Printworks.Proofs.Stage.Commitment
import Printworks.Proofs.Job.Submission
import Printworks.Proofs.Job.Outcome
import Printworks.Proofs.Job.Race
