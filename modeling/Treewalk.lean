import Treewalk.Arity
import Treewalk.CommandLine
import Treewalk.Core.Basic
import Treewalk.Core.Bridge
import Treewalk.Core.Call
import Treewalk.Core.Eval
import Treewalk.Decimal.Binary
import Treewalk.Decimal.Hex
import Treewalk.Decimal.Layout
import Treewalk.Decimal.Places
import Treewalk.Decimal.Reader
import Treewalk.Decimal.Shortest
import Treewalk.Document.Basic
import Treewalk.Document.Date
import Treewalk.Document.Format
import Treewalk.Document.Json.Reader
import Treewalk.Document.Json.Writer
import Treewalk.Document.Yaml.Cursor
import Treewalk.Document.Yaml.Event
import Treewalk.Document.Yaml.Graph
import Treewalk.Document.Yaml.Lexeme
import Treewalk.Document.Yaml.Problem
import Treewalk.Document.Yaml.Reader
import Treewalk.Document.Yaml.Scalar
import Treewalk.Document.Yaml.Token
import Treewalk.Document.Yaml.Writer
import Treewalk.Fault
import Treewalk.Host.Bridges
import Treewalk.Host.Reflection
import Treewalk.Host.Routine
import Treewalk.Host.World
import Treewalk.Method.Basic
import Treewalk.Method.Container
import Treewalk.Method.Object
import Treewalk.Method.Octets
import Treewalk.Method.Scalar
import Treewalk.Method.Text
import Treewalk.Mishap
import Treewalk.Operator.Arithmetic
import Treewalk.Operator.Compare
import Treewalk.Operator.Sequence
import Treewalk.Operator.Table
import Treewalk.Picture
import Treewalk.Program.Dump
import Treewalk.Program.Node
import Treewalk.Program.Printer
import Treewalk.Program.Reader
import Treewalk.Program.RoundTrip
import Treewalk.Runner.Basic
import Treewalk.Runner.Folder
import Treewalk.Runner.Report
import Treewalk.Sort.Basic
import Treewalk.Sort.Gallop
import Treewalk.Sort.Merge
import Treewalk.Sort.Run
import Treewalk.Template.Attribute
import Treewalk.Template.Brace
import Treewalk.Template.Percent
import Treewalk.Template.Spec
import Treewalk.Text.Chars
import Treewalk.Text.Encoding
import Treewalk.Text.Escape
import Treewalk.Text.Fragment
import Treewalk.Text.Lines
import Treewalk.Text.Octets
import Treewalk.Text.Quoted
import Treewalk.Text.Search
import Treewalk.Text.Table.Case
import Treewalk.Text.Table.CodePage
import Treewalk.Text.Table.Digit
import Treewalk.Text.Table.Letter
import Treewalk.Text.Table.Printable
import Treewalk.Text.Utf16
import Treewalk.Text.Utf8
import Treewalk.Value.Basic
import Treewalk.Value.Picture
import Treewalk.Main
import Treewalk.Proofs.Step
import Treewalk.Proofs.Turn
import Treewalk.Proofs.Course
import Treewalk.Proofs.Stack
import Treewalk.Proofs.Location
import Treewalk.Proofs.Lockstep
import Treewalk.Proofs.Isolation
import Treewalk.Proofs.Record
import Treewalk.Proofs.Dispatch
import Treewalk.Proofs.ReadBack
import Treewalk.Proofs.CallChain
import Treewalk.Proofs.Termination
import Treewalk.Proofs.Finality
import Treewalk.Proofs.Ceiling
import Treewalk.Proofs.Grammar
import Treewalk.Proofs.Conduct
import Treewalk.Proofs.Output
import Treewalk.Proofs.Shift.Basic
import Treewalk.Proofs.Shift.Compare
import Treewalk.Proofs.Shift.Operator
import Treewalk.Proofs.Shift.Template
import Treewalk.Proofs.Shift.Text
import Treewalk.Proofs.Shift.Act
import Treewalk.Proofs.Shift.Host
import Treewalk.Proofs.Shift.Method
import Treewalk.Proofs.Independence
import Treewalk.Proofs.Tracing
import Treewalk.Proofs.Mismatch
import Treewalk.Proofs.Arrangement
import Treewalk.Proofs.Reading.Json
import Treewalk.Proofs.Reading.Scan
import Treewalk.Proofs.Reading.Graph
import Treewalk.Proofs.Loading
import Treewalk.Proofs.Fuel
import Treewalk.Proofs.Loop
import Treewalk.Proofs.Wording
import Treewalk.Proofs.Rewording
import Treewalk.Proofs.BareCall
import Treewalk.Proofs.Parameter
import Treewalk.Proofs.Layout
import Treewalk.Proofs.Source
import Treewalk.Proofs.Verbatim
import Treewalk.Proofs.Printout
import Treewalk.Proofs.Blame
import Treewalk.Proofs.JsonText
import Treewalk.Proofs.JsonDocument
import Treewalk.Proofs.Relabelling
import Treewalk.Proofs.JsonProgram
import Treewalk.Proofs.Binding
import Treewalk.Proofs.Operand
import Treewalk.Proofs.Utf8
import Treewalk.Proofs.Replay
import Treewalk.Proofs.Indentation
