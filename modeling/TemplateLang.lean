import TemplateLang.CommandLine.Disk
import TemplateLang.CommandLine.Request
import TemplateLang.CommandLine.Run
import TemplateLang.CommandLine.Settings
import TemplateLang.CommandLine.Words
import TemplateLang.Date.Calendar
import TemplateLang.Date.Format
import TemplateLang.Engine.Config
import TemplateLang.Engine.Context
import TemplateLang.Engine.Error
import TemplateLang.Engine.Notice
import TemplateLang.Engine.Source
import TemplateLang.Eval.Action
import TemplateLang.Eval.Expression
import TemplateLang.Eval.Fault
import TemplateLang.Eval.Operator
import TemplateLang.Eval.Output
import TemplateLang.Eval.Scopes
import TemplateLang.Eval.Template
import TemplateLang.Files.Path
import TemplateLang.Files.Tree
import TemplateLang.Grammar.Basic
import TemplateLang.Grammar.Expression
import TemplateLang.Grammar.Template
import TemplateLang.Helper.Arguments
import TemplateLang.Helper.Builtin
import TemplateLang.Helper.Collections
import TemplateLang.Helper.Fault
import TemplateLang.Helper.Lines
import TemplateLang.Helper.Registry
import TemplateLang.Helper.Sliced
import TemplateLang.Helper.Texts
import TemplateLang.Json.Reader
import TemplateLang.Json.Writer
import TemplateLang.Main
import TemplateLang.Number.Binary64
import TemplateLang.Number.Decimal
import TemplateLang.Number.Natural
import TemplateLang.Pattern.CharSet
import TemplateLang.Pattern.Match
import TemplateLang.Pattern.Program
import TemplateLang.Pattern.Property
import TemplateLang.Pattern.Reader
import TemplateLang.Pattern.Regex
import TemplateLang.Pattern.Replace
import TemplateLang.Print.Expression
import TemplateLang.Print.Template
import TemplateLang.Proofs.Blanking.Template
import TemplateLang.Proofs.Collections.Firsts
import TemplateLang.Proofs.Collections.Parts
import TemplateLang.Proofs.Collections.Progressions
import TemplateLang.Proofs.Concatenation.Rendering
import TemplateLang.Proofs.Coverage.Stream
import TemplateLang.Proofs.Essence.Template
import TemplateLang.Proofs.Files.Runs
import TemplateLang.Proofs.Files.Writing
import TemplateLang.Proofs.Json.RoundTrip
import TemplateLang.Proofs.Jumps
import TemplateLang.Proofs.Lines.Cuts
import TemplateLang.Proofs.Lines.Positions
import TemplateLang.Proofs.Nesting
import TemplateLang.Proofs.Number.Integers
import TemplateLang.Proofs.Number.Order
import TemplateLang.Proofs.Number.Rounding
import TemplateLang.Proofs.Outline.Tokens
import TemplateLang.Proofs.Places.Pointing
import TemplateLang.Proofs.Places.Underlining
import TemplateLang.Proofs.RoundTrip.Templates
import TemplateLang.Proofs.Scoping.Agreement
import TemplateLang.Proofs.Scoping.Balance
import TemplateLang.Proofs.Scoping.Confinement
import TemplateLang.Proofs.Scoping.Flattening
import TemplateLang.Proofs.Scoping.Interference
import TemplateLang.Proofs.Scoping.Layering
import TemplateLang.Proofs.Scoping.Swapping
import TemplateLang.Proofs.Separation.Evaluation
import TemplateLang.Proofs.Separation.Pipes
import TemplateLang.Proofs.Shape
import TemplateLang.Proofs.Slots.Change
import TemplateLang.Proofs.Slots.Order
import TemplateLang.Proofs.Splitting.Template
import TemplateLang.Proofs.Termination.Template
import TemplateLang.Proofs.Tiling
import TemplateLang.Proofs.Trimming
import TemplateLang.Proofs.Values.Equality
import TemplateLang.Proofs.Words.Lowering
import TemplateLang.Proofs.Words.Partition
import TemplateLang.Report.Code
import TemplateLang.Report.Diagnostic
import TemplateLang.Report.Sliced
import TemplateLang.Report.Snippet
import TemplateLang.Source.Cursor
import TemplateLang.Source.Lines
import TemplateLang.Source.Span
import TemplateLang.Syntax.Expr
import TemplateLang.Syntax.Fault
import TemplateLang.Syntax.Literal
import TemplateLang.Syntax.Mentions
import TemplateLang.Syntax.Parts
import TemplateLang.Syntax.Shift
import TemplateLang.Syntax.Template
import TemplateLang.Syntax.Word
import TemplateLang.Text.Quoted
import TemplateLang.Text.Trim
import TemplateLang.Text.Words
import TemplateLang.Token.Basic
import TemplateLang.Token.Scan
import TemplateLang.Toml.Reader
import TemplateLang.Toml.Scalar
import TemplateLang.Toml.Tree
import TemplateLang.Unicode.CaseMapping
import TemplateLang.Unicode.Categories
import TemplateLang.Unicode.Folding
import TemplateLang.Unicode.Letters
import TemplateLang.Unicode.Printable
import TemplateLang.Unicode.Ranges
import TemplateLang.Unicode.Scripts
import TemplateLang.Value.Basic
import TemplateLang.Value.Path
import TemplateLang.Value.Table
import TemplateLang.Value.Text
import TemplateLang.Proofs.Collections.Separated
import TemplateLang.Proofs.Number.Radix
import TemplateLang.Proofs.Places.Starts
