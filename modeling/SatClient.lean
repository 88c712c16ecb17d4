import SatClient.Main
import SatClient.Proofs.Table
import SatClient.Proofs.Registry
import SatClient.Proofs.Dimacs.Reader
import SatClient.Proofs.Dimacs.Rendering
import SatClient.Proofs.Reply
import SatClient.Proofs.Solver.Problem
import SatClient.Proofs.Solver.Attempt
import SatClient.Proofs.Workspace.Run
import SatClient.Proofs.FileStore
import SatClient.Proofs.Workspace.Serialization
import SatClient.Proofs.Workspace.Solving
import SatClient.Proofs.Workspace.LatestResults
import SatClient.Proofs.Workspace.Noninterference
import SatClient.Proofs.Clause
import SatClient.Proofs.Reply.Answer
import SatClient.Proofs.Workspace.Soundness
import SatClient.Proofs.Demo
import SatClient.Proofs.Registry.Calls
import SatClient.Proofs.Demo.Models
import SatClient.Proofs.Reply.Assignment
import SatClient.Proofs.Solver.Classification
import SatClient.Proofs.Workspace.Classification
import SatClient.Proofs.Solver.Failures
import SatClient.Proofs.Demo.Run
import SatClient.Proofs.Workspace.Failures
import SatClient.Proofs.Workspace.Creation
import SatClient.Proofs.Workspace.Reset
import SatClient.Proofs.Workspace.Export
import SatClient.Proofs.Construction
import SatClient.Proofs.Workspace.Ownership
import SatClient.Proofs.Properties
import SatClient.Proofs.Settings
import SatClient.Proofs.Text.Trim
import SatClient.Proofs.Encoding.Exclusion
import SatClient.Proofs.Encoding.Equivalence
import SatClient.Proofs.Settings.Validity
import SatClient.Proofs.Settings.Source
import SatClient.Proofs.Demo.Settings
import SatClient.Proofs.Demo.Report
import SatClient.Proofs.Text.Decimal
import SatClient.Proofs.Reply.Grammar
import SatClient.Proofs.Reply.RoundTrip
import SatClient.Proofs.Solver.Recording
import SatClient.Proofs.Workspace.Recording
import SatClient.Proofs.Text.Feeds
import SatClient.Proofs.Workspace.Diagnostics
import SatClient.Proofs.Field
import SatClient.Proofs.Document
import SatClient.Proofs.FileStore.Atomic
import SatClient.Proofs.Text.Layout
import SatClient.Proofs.Properties.Composition
import SatClient.Proofs.Properties.NormalForm
import SatClient.Proofs.Statistics
import SatClient.Proofs.Clause.Evaluation
import SatClient.Proofs.Log.Level
import SatClient.Proofs.Log.Run
import SatClient.Proofs.Decimal.Rounding
import SatClient.Proofs.Decimal.Numeral
import SatClient.Proofs.Decimal.Reading
import SatClient.Proofs.Settings.Outcome
