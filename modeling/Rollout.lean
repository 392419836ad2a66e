import Rollout.Table
import Rollout.Text.Blank
import Rollout.Text.Digits
import Rollout.Text.Quoted
import Rollout.Number.Shortest
import Rollout.Number.Decimal
import Rollout.Document
import Rollout.Document.Decoder
import Rollout.Document.Json
import Rollout.Document.Printer
import Rollout.Address
import Rollout.Amount
import Rollout.Registry
import Rollout.Genesis
import Rollout.Document.Yaml
import Rollout.Template
import Rollout.Payload
import Rollout.Assertion
import Rollout.Lifecycle.Error
import Rollout.Invariant
import Rollout.Lifecycle.Outputs
import Rollout.Lifecycle
import Rollout.Lifecycle.Declared
import Rollout.Lifecycle.Scripted
import Rollout.Proposal
import Rollout.Catalogue
import Rollout.Catalogue.Dependencies
import Rollout.Listing
import Rollout.Catalogue.File
import Rollout.Environment.Book
import Rollout.Environment
import Rollout.Run.Phase
import Rollout.Run.Error
import Rollout.Run.Result
import Rollout.Run.Validation
import Rollout.Run
import Rollout.Run.Report
import Rollout.Standard
import Rollout.Chain.Operation
import Rollout.Lifecycle.Steps
import Rollout.Document.Toml.Text
import Rollout.Document.Toml.Table
import Rollout.Document.Toml
import Rollout.Path
import Rollout.Folder
import Rollout.Settings
import Rollout.Session
import Rollout.CommandLine.Argument
import Rollout.CommandLine.Request
import Rollout.CommandLine
import Rollout.CommandLine.Help
import Rollout.Answer
import Rollout.Run.Name
import Rollout.Main
import Rollout.Proofs.Errors
import Rollout.Proofs.Registry.Entries
import Rollout.Proofs.Run.Course
import Rollout.Proofs.Run.Steps
import Rollout.Proofs.Run.Gating
import Rollout.Proofs.Run.Sequence
import Rollout.Proofs.Run.Verdict
import Rollout.Proofs.Run.FinalRegistry
import Rollout.Proofs.Catalogue.Availability
import Rollout.Proofs.Lifecycle.Collects
import Rollout.Proofs.Registry.References
import Rollout.Proofs.Run.Dependencies
import Rollout.Proofs.Catalogue.Issues
import Rollout.Proofs.Run.Moves
import Rollout.Proofs.Chain.Access
import Rollout.Proofs.Governance.Batch
import Rollout.Proofs.Run.Admission
import Rollout.Proofs.Run.Isolation
import Rollout.Proofs.Run.Replay
import Rollout.Proofs.Chain.Code
import Rollout.Proofs.Run.Backing
import Rollout.Proofs.Table.Overlay
import Rollout.Proofs.Registry.Merging
import Rollout.Proofs.Registry.Revival
import Rollout.Proofs.Registry.History
import Rollout.Proofs.Run.Bookkeeping
import Rollout.Proofs.Run.Undeployed
import Rollout.Proofs.Chain.Currency
import Rollout.Proofs.Chain.Burning
import Rollout.Proofs.Address.Text
import Rollout.Proofs.Amount.Text
import Rollout.Proofs.Chain.Transfers
import Rollout.Proofs.Run.Logging
import Rollout.Proofs.Document.Reading
import Rollout.Proofs.Value.Places
import Rollout.Proofs.Document.Values
import Rollout.Proofs.Catalogue.Rereading
import Rollout.Proofs.Template.Placeholders
import Rollout.Proofs.Template.Resolution
import Rollout.Proofs.Template.Parties
import Rollout.Proofs.Assertion.Recording
import Rollout.Proofs.Assertion.Halting
import Rollout.Proofs.Value.Agreement
import Rollout.Proofs.Invariant.Evaluation
import Rollout.Proofs.Invariant.Decision
import Rollout.Proofs.Run.Collecting
import Rollout.Proofs.Chain.Deployment
import Rollout.Proofs.Lifecycle.Deploying
import Rollout.Proofs.Chain.Freezing
import Rollout.Proofs.Chain.Refusals
import Rollout.Proofs.Governance.Funding
import Rollout.Proofs.Run.Supersession
import Rollout.Proofs.Payload.Calls
import Rollout.Proofs.Run.Execution
import Rollout.Proofs.Address.Bytes
import Rollout.Proofs.Chain.Footprint
import Rollout.Proofs.Chain.Numbering
import Rollout.Proofs.Document.Quoting
import Rollout.Proofs.Address.Format
import Rollout.Proofs.Amount.Format
import Rollout.Proofs.Session.Repetition
import Rollout.Proofs.Run.Views
import Rollout.Proofs.Environment.Rereading
import Rollout.Proofs.Genesis.Building
import Rollout.Proofs.Registry.Overwrites
import Rollout.Proofs.Chain.Shorthands
import Rollout.Proofs.Run.Trails
import Rollout.Proofs.Amount.Readers
import Rollout.Proofs.Lifecycle.Notes
