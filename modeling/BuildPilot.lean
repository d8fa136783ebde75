import BuildPilot.Action
import BuildPilot.BuildType
import BuildPilot.Command.Outcome
import BuildPilot.Command.Words
import BuildPilot.CommandLine.Arguments
import BuildPilot.CommandLine.Program
import BuildPilot.CommandLine.Switch
import BuildPilot.Configuration.Basic
import BuildPilot.Configuration.Resolve
import BuildPilot.Console
import BuildPilot.Defaults
import BuildPilot.Document.Calendar
import BuildPilot.Document.Json
import BuildPilot.Document.Reader
import BuildPilot.Document.Source
import BuildPilot.Document.Toml
import BuildPilot.Document.Toml.Lexeme
import BuildPilot.Document.Toml.Scalar
import BuildPilot.Document.Toml.Table
import BuildPilot.Document.Value
import BuildPilot.Document.Yaml
import BuildPilot.Document.Yaml.Content
import BuildPilot.Document.Yaml.Cursor
import BuildPilot.Document.Yaml.Loop
import BuildPilot.Document.Yaml.Merge
import BuildPilot.Document.Yaml.Node
import BuildPilot.Document.Yaml.Octets
import BuildPilot.Document.Yaml.Plain
import BuildPilot.Document.Yaml.Scalar
import BuildPilot.Document.Yaml.Supply
import BuildPilot.Document.Yaml.Tag
import BuildPilot.Document.Yaml.TextValue
import BuildPilot.Document.Yaml.Timestamp
import BuildPilot.Document.Yaml.Token
import BuildPilot.Environment
import BuildPilot.Executor
import BuildPilot.ExtraArgs
import BuildPilot.Failure
import BuildPilot.FileSystem.Basic
import BuildPilot.FileSystem.Error
import BuildPilot.FileSystem.NamePattern
import BuildPilot.FileSystem.Operations
import BuildPilot.FileSystem.Provision
import BuildPilot.FileSystem.RealPath
import BuildPilot.FileSystem.Search
import BuildPilot.FileSystem.Walk
import BuildPilot.Main
import BuildPilot.Numeric.FloatText
import BuildPilot.Numeric.Integer
import BuildPilot.Numeric.Shortest
import BuildPilot.Path
import BuildPilot.Plan
import BuildPilot.Proofs.Act
import BuildPilot.Proofs.Course
import BuildPilot.Proofs.ExitStatus
import BuildPilot.Proofs.FileWork
import BuildPilot.Proofs.Layout
import BuildPilot.Proofs.Outcome
import BuildPilot.Proofs.Preview
import BuildPilot.Proofs.Program
import BuildPilot.Proofs.RealPath
import BuildPilot.Proofs.Report
import BuildPilot.Runner
import BuildPilot.Session
import BuildPilot.Shell.Arithmetic
import BuildPilot.Shell.Builtin
import BuildPilot.Shell.Condition
import BuildPilot.Shell.Field
import BuildPilot.Shell.Format
import BuildPilot.Shell.Launch
import BuildPilot.Shell.Lookup
import BuildPilot.Shell.Program
import BuildPilot.Shell.Redirecting
import BuildPilot.Shell.Run
import BuildPilot.Shell.Scope
import BuildPilot.Shell.Script
import BuildPilot.Shell.Script.Reading
import BuildPilot.Shell.Signal
import BuildPilot.Shell.Startup
import BuildPilot.Shell.State
import BuildPilot.Shell.Token
import BuildPilot.Shell.Token.Reading
import BuildPilot.Shell.Utility
import BuildPilot.Shell.Utility.Basic
import BuildPilot.Shell.Utility.Files
import BuildPilot.Shell.Utility.Lines
import BuildPilot.Shell.World
import BuildPilot.TestFilter
import BuildPilot.Text.Blank
import BuildPilot.Text.CodePoint
import BuildPilot.Text.DecimalDigit
import BuildPilot.Text.LetterCase
import BuildPilot.Text.LineStream
import BuildPilot.Text.Newline
import BuildPilot.Text.Printable
import BuildPilot.Text.Quoted
import BuildPilot.Text.Split
import BuildPilot.Text.Utf8
import BuildPilot.Toolchain.Basic
import BuildPilot.Toolchain.Registry
import BuildPilot.Proofs.Place
import BuildPilot.Proofs.Precedence
import BuildPilot.Proofs.Request
import BuildPilot.Proofs.Search
import BuildPilot.Proofs.Effect
import BuildPilot.Proofs.Confinement
import BuildPilot.Proofs.Escape
import BuildPilot.Proofs.Verbosity
import BuildPilot.Proofs.WellFormed
import BuildPilot.Proofs.RealLocation
import BuildPilot.Proofs.WorkingDirectory
import BuildPilot.Proofs.Publication
import BuildPilot.Proofs.History
import BuildPilot.Proofs.PublishedDatabase
import BuildPilot.Proofs.Footprint
import BuildPilot.Proofs.Publishing
import BuildPilot.Proofs.DefaultsTable
import BuildPilot.Proofs.Resolution
import BuildPilot.Proofs.Texts
import BuildPilot.Proofs.CommandText
import BuildPilot.Proofs.SwitchValues
import BuildPilot.Proofs.ScopeIsolation
import BuildPilot.Proofs.DefaultsFile
import BuildPilot.Proofs.TestNames
import BuildPilot.Proofs.Decoding
import BuildPilot.Proofs.Streaming
import BuildPilot.Proofs.Launching
import BuildPilot.Proofs.Composition
import BuildPilot.Proofs.ToolchainSwitches
import BuildPilot.Proofs.Rebuilding
import BuildPilot.Proofs.Removal
import BuildPilot.Proofs.Selection
import BuildPilot.Proofs.Permissions
import BuildPilot.Proofs.AddedEntries
import BuildPilot.Proofs.BuildTrees
import BuildPilot.Proofs.Choices
import BuildPilot.Proofs.Origin
