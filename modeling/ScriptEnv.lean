import ScriptEnv.Calendar
import ScriptEnv.Catalog
import ScriptEnv.CommandLine.Basic
import ScriptEnv.CommandLine.Connection
import ScriptEnv.CommandLine.Level
import ScriptEnv.CommandLine.Parser
import ScriptEnv.CommandLine.Usage
import ScriptEnv.CommandLine.Word
import ScriptEnv.Decode.Mismatch
import ScriptEnv.Driver
import ScriptEnv.Engine.Acquire
import ScriptEnv.Engine.Peer
import ScriptEnv.Engine.Session
import ScriptEnv.Engine.Statement
import ScriptEnv.Entity
import ScriptEnv.Failure
import ScriptEnv.Frame.Basic
import ScriptEnv.Frame.Cell
import ScriptEnv.Frame.Codec
import ScriptEnv.Frame.Records
import ScriptEnv.Frame.Table
import ScriptEnv.Identifier
import ScriptEnv.Json.Fault
import ScriptEnv.Json.Reader
import ScriptEnv.Json.Scanner
import ScriptEnv.Json.Skip
import ScriptEnv.Json.Value
import ScriptEnv.Json.Writer
import ScriptEnv.Keyed
import ScriptEnv.Log
import ScriptEnv.LogFilter
import ScriptEnv.Main
import ScriptEnv.Number.Binary64
import ScriptEnv.Number.Layout
import ScriptEnv.Number.Numeral
import ScriptEnv.Number.Power
import ScriptEnv.Number.Shortest
import ScriptEnv.Payload
import ScriptEnv.Profile
import ScriptEnv.Program
import ScriptEnv.Report
import ScriptEnv.Script.Answer
import ScriptEnv.Script.Builtin
import ScriptEnv.Script.Environment
import ScriptEnv.Script.Runner
import ScriptEnv.Script.Step
import ScriptEnv.Settings
import ScriptEnv.Target
import ScriptEnv.Text.Blank
import ScriptEnv.Text.Bytes
import ScriptEnv.Text.Lower
import ScriptEnv.Text.Quoted
import ScriptEnv.Text.Split
import ScriptEnv.Text.Upper
import ScriptEnv.Text.Visible
import ScriptEnv.Toml.Decode
import ScriptEnv.Toml.Document
import ScriptEnv.Toml.Fault
import ScriptEnv.Toml.Lexical
import ScriptEnv.Toml.Moment
import ScriptEnv.Toml.Numeral
import ScriptEnv.Toml.Parser
import ScriptEnv.Toml.Table
import ScriptEnv.Toml.Text
import ScriptEnv.Toml.Value
import ScriptEnv.Tuning
import ScriptEnv.Url.Basic
import ScriptEnv.Url.Host
import ScriptEnv.Url.Ipv4
import ScriptEnv.Url.Ipv6
import ScriptEnv.Url.Path
import ScriptEnv.Url.Percent
import ScriptEnv.Variables
import ScriptEnv.Wire.Row
import ScriptEnv.Wire.Value
import ScriptEnv.Proofs.Url.Escaping
import ScriptEnv.Proofs.Url.Reading
import ScriptEnv.Proofs.Url.Shape
import ScriptEnv.Proofs.Url.Place
import ScriptEnv.Proofs.Json.Grammar
import ScriptEnv.Proofs.Json.Strings
import ScriptEnv.Proofs.Json.Numbers
import ScriptEnv.Proofs.Json.Numerals
import ScriptEnv.Proofs.Json.Skipping
import ScriptEnv.Proofs.Json.Splitting
import ScriptEnv.Proofs.Json.Reading
import ScriptEnv.Proofs.Json.Frames
import ScriptEnv.Proofs.Json.Records
import ScriptEnv.Proofs.Json.Values
import ScriptEnv.Proofs.Json.Entries
import ScriptEnv.Proofs.Json.Written
import ScriptEnv.Proofs.Json.Lists
import ScriptEnv.Proofs.Json.Parsing
import ScriptEnv.Proofs.Json.Scaling
import ScriptEnv.Proofs.Json.Floats
import ScriptEnv.Proofs.Number.Rounding
import ScriptEnv.Proofs.Number.Shortest
import ScriptEnv.Proofs.Profile.Reading
import ScriptEnv.Proofs.Profile.OpaquePath
import ScriptEnv.Proofs.Engine.Refusal
import ScriptEnv.Proofs.Engine.Retry
import ScriptEnv.Proofs.Engine.Verdict
import ScriptEnv.Proofs.Engine.Redaction
import ScriptEnv.Proofs.Engine.Lending
import ScriptEnv.Proofs.Target.ReadBack
import ScriptEnv.Proofs.Target.HostSurvival
import ScriptEnv.Proofs.Target.Blame
import ScriptEnv.Proofs.CommandLine.Reading
import ScriptEnv.Proofs.CommandLine.Precedence
import ScriptEnv.Proofs.CommandLine.Sources
import ScriptEnv.Proofs.Runner.Run
import ScriptEnv.Proofs.Runner.Reporting
import ScriptEnv.Proofs.Runner.Blind
import ScriptEnv.Proofs.Runner.Secrecy
import ScriptEnv.Proofs.Payload.Fields
import ScriptEnv.Proofs.Payload.Listed
import ScriptEnv.Proofs.Payload.Object
import ScriptEnv.Proofs.Payload.RoundTrip
import ScriptEnv.Proofs.Report.Records
import ScriptEnv.Proofs.Frame.Cells
import ScriptEnv.Proofs.Frame.Stored
import ScriptEnv.Proofs.Frame.RoundTrip
import ScriptEnv.Proofs.Script.Effect
import ScriptEnv.Proofs.Script.Accounting
import ScriptEnv.Proofs.Script.LifeCycle
import ScriptEnv.Proofs.Runner.Gate
import ScriptEnv.Proofs.Frame.Keys
import ScriptEnv.Proofs.Frame.Elapsed
import ScriptEnv.Proofs.CommandLine.Placement
import ScriptEnv.Proofs.Script.Printing
import ScriptEnv.Proofs.Program.Outcome
import ScriptEnv.Proofs.Entity.Quoting
import ScriptEnv.Proofs.Wire.Cells
import ScriptEnv.Proofs.Frame.Shape
import ScriptEnv.Proofs.Frame.Alignment
import ScriptEnv.Proofs.Text.ByteOrder
import ScriptEnv.Proofs.Catalog.Names
import ScriptEnv.Proofs.Calendar.Years
import ScriptEnv.Proofs.Wire.Moments
import ScriptEnv.Proofs.Engine.Dates
import ScriptEnv.Proofs.CommandLine.Verbosity
