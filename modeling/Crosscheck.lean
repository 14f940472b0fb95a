import Crosscheck.Campaign
import Crosscheck.CommandLine
import Crosscheck.CommandLine.Arguments
import Crosscheck.Config
import Crosscheck.Config.Load
import Crosscheck.Corpus
import Crosscheck.Corpus.Directory
import Crosscheck.Corpus.Json
import Crosscheck.Coverage.Guard
import Crosscheck.Coverage.Json
import Crosscheck.Coverage.Map
import Crosscheck.Coverage.Novelty
import Crosscheck.Coverage.Snapshot
import Crosscheck.Coverage.Union
import Crosscheck.Decimal.Binary64
import Crosscheck.Decimal.Exponent
import Crosscheck.Decimal.Fixed
import Crosscheck.Decimal.Shortest
import Crosscheck.Digest
import Crosscheck.Duration
import Crosscheck.Equivalence
import Crosscheck.Failure
import Crosscheck.Files.Change
import Crosscheck.Files.Path
import Crosscheck.Files.Tree
import Crosscheck.Finding
import Crosscheck.Json.Decode
import Crosscheck.Json.Document
import Crosscheck.Json.Value
import Crosscheck.Main
import Crosscheck.Mutation
import Crosscheck.Mutation.Pool
import Crosscheck.Mutation.Statements
import Crosscheck.Mutation.Tweak
import Crosscheck.Outcome
import Crosscheck.Outcome.Json
import Crosscheck.Process
import Crosscheck.Process.Activity
import Crosscheck.Process.Buffer
import Crosscheck.Process.LineReader
import Crosscheck.Process.Opening
import Crosscheck.Process.Program
import Crosscheck.Process.Signal
import Crosscheck.Process.System
import Crosscheck.Proofs.Campaign.Accounting
import Crosscheck.Proofs.Campaign.Attribution
import Crosscheck.Proofs.Campaign.Chronicle
import Crosscheck.Proofs.Campaign.Determinism
import Crosscheck.Proofs.Campaign.History
import Crosscheck.Proofs.Campaign.Lineage
import Crosscheck.Proofs.Campaign.Modes
import Crosscheck.Proofs.Campaign.Productivity
import Crosscheck.Proofs.Campaign.Replay
import Crosscheck.Proofs.Campaign.Step
import Crosscheck.Proofs.Config
import Crosscheck.Proofs.Corpus.Directory
import Crosscheck.Proofs.Corpus.RoundTrip
import Crosscheck.Proofs.Coverage.Evaluation
import Crosscheck.Proofs.Coverage.Feedback
import Crosscheck.Proofs.Coverage.Footprint
import Crosscheck.Proofs.Coverage.Gathering
import Crosscheck.Proofs.Coverage.Guard
import Crosscheck.Proofs.Coverage.Map
import Crosscheck.Proofs.Coverage.Operations
import Crosscheck.Proofs.Coverage.Union
import Crosscheck.Proofs.Coverage.Words
import Crosscheck.Proofs.Digest
import Crosscheck.Proofs.Equivalence
import Crosscheck.Proofs.Equivalence.Normalized
import Crosscheck.Proofs.Except
import Crosscheck.Proofs.Files.Path
import Crosscheck.Proofs.Files.Tree
import Crosscheck.Proofs.Finding
import Crosscheck.Proofs.Isolation.Invariant
import Crosscheck.Proofs.Isolation.Records
import Crosscheck.Proofs.Isolation.Refinement
import Crosscheck.Proofs.Isolation.Schedule
import Crosscheck.Proofs.Isolation.Stage
import Crosscheck.Proofs.Json.Decode
import Crosscheck.Proofs.Json.Document
import Crosscheck.Proofs.Json.Token
import Crosscheck.Proofs.Mutation.Limit
import Crosscheck.Proofs.Mutation.Pool
import Crosscheck.Proofs.Mutation.Replacement
import Crosscheck.Proofs.Mutation.Shift
import Crosscheck.Proofs.Mutation.Statements
import Crosscheck.Proofs.Mutation.Synthesis
import Crosscheck.Proofs.Mutation.Tweak
import Crosscheck.Proofs.Outcome.RoundTrip
import Crosscheck.Proofs.Process.Hearing
import Crosscheck.Proofs.Random.Source
import Crosscheck.Proofs.Reporter.Leaves
import Crosscheck.Proofs.Reporter.Lines
import Crosscheck.Proofs.Runner
import Crosscheck.Proofs.Runner.Context
import Crosscheck.Proofs.Scheduling.Novelty
import Crosscheck.Proofs.Session.Exchange
import Crosscheck.Proofs.Session.Reception
import Crosscheck.Proofs.Session.Sentinel
import Crosscheck.Proofs.Session.Transcript
import Crosscheck.Proofs.Statement.Concatenation
import Crosscheck.Proofs.Statement.Division
import Crosscheck.Proofs.Statement.Literal
import Crosscheck.Proofs.Statement.RoundTrip
import Crosscheck.Proofs.Statement.Span
import Crosscheck.Proofs.Text.Blank
import Crosscheck.Proofs.Text.Fields
import Crosscheck.Proofs.Text.Utf8
import Crosscheck.Proofs.Verdict.Coarsening
import Crosscheck.Proofs.Verdict.Grouping
import Crosscheck.Proofs.Verdict.Invariance
import Crosscheck.Proofs.Verdict.Quotient
import Crosscheck.Random.ChaCha
import Crosscheck.Random.Cycle
import Crosscheck.Random.Source
import Crosscheck.Record
import Crosscheck.Reporter
import Crosscheck.Reporter.Event
import Crosscheck.Reporter.Recorder
import Crosscheck.Reporter.Writer
import Crosscheck.Runner
import Crosscheck.Scheduling
import Crosscheck.Scheduling.Novelty
import Crosscheck.Script.Arithmetic
import Crosscheck.Script.Builtin
import Crosscheck.Script.Builtin.Basic
import Crosscheck.Script.Builtin.Control
import Crosscheck.Script.Builtin.Location
import Crosscheck.Script.Builtin.Naming
import Crosscheck.Script.Builtin.Signals
import Crosscheck.Script.Builtin.Text
import Crosscheck.Script.Builtin.Variable
import Crosscheck.Script.Condition
import Crosscheck.Script.Evaluation
import Crosscheck.Script.Expansion
import Crosscheck.Script.Format
import Crosscheck.Script.Job
import Crosscheck.Script.Launch
import Crosscheck.Script.Pathname
import Crosscheck.Script.Pattern
import Crosscheck.Script.Reader
import Crosscheck.Script.Redirection
import Crosscheck.Script.Shell
import Crosscheck.Script.Source
import Crosscheck.Script.Start
import Crosscheck.Script.State
import Crosscheck.Script.Syntax
import Crosscheck.Script.Token
import Crosscheck.Session.Reception
import Crosscheck.Session.Sentinel
import Crosscheck.Session.Settings
import Crosscheck.Session.Transcript
import Crosscheck.Statement
import Crosscheck.Statement.Literal
import Crosscheck.Statement.Span
import Crosscheck.Stats
import Crosscheck.Target
import Crosscheck.Target.Harness
import Crosscheck.Target.Inline
import Crosscheck.Target.Rules
import Crosscheck.Target.Session
import Crosscheck.Target.Thread
import Crosscheck.Target.Worker
import Crosscheck.Text.Blank
import Crosscheck.Text.Coded
import Crosscheck.Text.Octets
import Crosscheck.Text.Quoted
import Crosscheck.Text.Regex
import Crosscheck.Text.Regex.Reader
import Crosscheck.Text.Utf8
import Crosscheck.Toml.Decode
import Crosscheck.Toml.Document
import Crosscheck.Toml.Scalar
import Crosscheck.Toml.Table
import Crosscheck.Toml.Text
import Crosscheck.Toml.Value
import Crosscheck.Utility
import Crosscheck.Utility.Basic
import Crosscheck.Utility.Blocks
import Crosscheck.Utility.Copy
import Crosscheck.Utility.Delegate
import Crosscheck.Utility.Dump
import Crosscheck.Utility.Editor.Reader
import Crosscheck.Utility.Editor.Run
import Crosscheck.Utility.Editor.Syntax
import Crosscheck.Utility.Files
import Crosscheck.Utility.Lines
import Crosscheck.Utility.Number
import Crosscheck.Utility.Search
import Crosscheck.Utility.Simple
import Crosscheck.Utility.Sort
import Crosscheck.Utility.Stream
import Crosscheck.Utility.Transliterate
import Crosscheck.Verdict
