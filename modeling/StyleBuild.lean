import StyleBuild.Browsers.Basic
import StyleBuild.Browsers.Feature
import StyleBuild.Browsers.Prefixed
import StyleBuild.Browsers.Query
import StyleBuild.Browsers.Releases
import StyleBuild.Browsers.Targets
import StyleBuild.Build.Run
import StyleBuild.Build.State
import StyleBuild.Build.State.Json
import StyleBuild.Command.Arguments
import StyleBuild.Command.Build
import StyleBuild.Command.Inspect
import StyleBuild.Command.Program
import StyleBuild.Command.Session
import StyleBuild.Console.Report
import StyleBuild.Content.Source
import StyleBuild.Content.Scan
import StyleBuild.Css.Animation
import StyleBuild.Css.Calc
import StyleBuild.Css.Calc.Parser
import StyleBuild.Css.Color
import StyleBuild.Css.Color.Mixing
import StyleBuild.Css.Color.Parser
import StyleBuild.Css.Color.Space
import StyleBuild.Css.Component
import StyleBuild.Css.Condition
import StyleBuild.Css.Container
import StyleBuild.Css.Declaration.Basic
import StyleBuild.Css.Declaration.Normal
import StyleBuild.Css.Declaration.Parser
import StyleBuild.Css.Declaration.Printer
import StyleBuild.Css.Declaration.Waiting
import StyleBuild.Css.Display
import StyleBuild.Css.Fallback
import StyleBuild.Css.Family
import StyleBuild.Css.FontFace
import StyleBuild.Css.Import
import StyleBuild.Css.Keyframes
import StyleBuild.Css.Media
import StyleBuild.Css.Media.Feature
import StyleBuild.Css.Number
import StyleBuild.Css.Page
import StyleBuild.Css.Printing
import StyleBuild.Css.Quantity
import StyleBuild.Css.Raw
import StyleBuild.Css.Registered
import StyleBuild.Css.Rule.Basic
import StyleBuild.Css.Rule.Built
import StyleBuild.Css.Rule.Normal
import StyleBuild.Css.Rule.Parser
import StyleBuild.Css.Rule.Printer
import StyleBuild.Css.Selector.Basic
import StyleBuild.Css.Selector.Parser
import StyleBuild.Css.Selector.Printer
import StyleBuild.Css.Selector.Support
import StyleBuild.Css.Sheet
import StyleBuild.Css.Supports
import StyleBuild.Css.SyntaxError
import StyleBuild.Css.Token
import StyleBuild.Css.Token.Lexer
import StyleBuild.Css.Transform
import StyleBuild.Css.Written
import StyleBuild.Data.Reading
import StyleBuild.Data.Ordered
import StyleBuild.Data.Value
import StyleBuild.Files.Path
import StyleBuild.Files.Tree
import StyleBuild.Glob.Expansion
import StyleBuild.Glob.Pattern
import StyleBuild.Json.Basic
import StyleBuild.Json.Form
import StyleBuild.Json.Reader
import StyleBuild.Json.Scalar
import StyleBuild.Log
import StyleBuild.Main
import StyleBuild.Number.Binary64
import StyleBuild.Number.Shortest
import StyleBuild.Pipeline.Basic
import StyleBuild.Pipeline.Config
import StyleBuild.Pipeline.Config.File
import StyleBuild.Pipeline.Config.Printer
import StyleBuild.Pipeline.Config.Reading
import StyleBuild.Regex.Basic
import StyleBuild.Regex.Bulk
import StyleBuild.Regex.CaseFold
import StyleBuild.Regex.Fault
import StyleBuild.Regex.Matching
import StyleBuild.Regex.Parser
import StyleBuild.Regex.Property
import StyleBuild.Regex.Property.Age
import StyleBuild.Regex.Property.Script
import StyleBuild.Regex.Property.Segment
import StyleBuild.Regex.Word
import StyleBuild.Stage.Basic
import StyleBuild.Stage.Directive
import StyleBuild.Stage.Generation
import StyleBuild.Stage.Options
import StyleBuild.Stage.Pass
import StyleBuild.Text.Blank
import StyleBuild.Text.Category
import StyleBuild.Text.CharSet
import StyleBuild.Text.Digits
import StyleBuild.Text.NameSet
import StyleBuild.Text.Property
import StyleBuild.Text.Quoted
import StyleBuild.Text.Split
import StyleBuild.Text.Utf8
import StyleBuild.Theme.Basic
import StyleBuild.Theme.Reading
import StyleBuild.Time.Instant
import StyleBuild.Uuid
import StyleBuild.Yaml.Token
import StyleBuild.Yaml.Node
import StyleBuild.Yaml.Node.Parser
import StyleBuild.Yaml.Reading
import StyleBuild.Yaml.Scalar
import StyleBuild.Yaml.Token.Lexer
import StyleBuild.Yaml.Token.Scalar
import StyleBuild.Proofs.Build.Scanning
import StyleBuild.Proofs.Build.Stages
import StyleBuild.Proofs.Build.Outcome
import StyleBuild.Proofs.Build.Fresh
import StyleBuild.Proofs.Build.Replay
import StyleBuild.Proofs.Build.Ending
import StyleBuild.Proofs.Css.Blocks
import StyleBuild.Proofs.Css.Places
import StyleBuild.Proofs.Css.Unused
import StyleBuild.Proofs.Css.Putting
import StyleBuild.Proofs.Css.WithoutTargets
import StyleBuild.Proofs.Css.Surviving
import StyleBuild.Proofs.Css.Tracing
import StyleBuild.Proofs.Css.Keeping
import StyleBuild.Proofs.Css.Marks
import StyleBuild.Proofs.Css.Dropping
import StyleBuild.Proofs.Css.Tidy
import StyleBuild.Proofs.Css.Selecting
import StyleBuild.Proofs.Css.Nesting
import StyleBuild.Proofs.Stage.Pruning
import StyleBuild.Proofs.Stage.Thorough
import StyleBuild.Proofs.Stage.Options
import StyleBuild.Proofs.Stage.Preserving
import StyleBuild.Proofs.Css.Clean
import StyleBuild.Proofs.Build.Survey
import StyleBuild.Proofs.Build.History
import StyleBuild.Proofs.Regex.Searching
import StyleBuild.Proofs.Directive.Form
import StyleBuild.Proofs.Directive.Pattern
import StyleBuild.Proofs.Directive.Splicing
import StyleBuild.Proofs.Directive.Lexing
import StyleBuild.Proofs.Directive.Quoting
import StyleBuild.Proofs.Directive.Naming
import StyleBuild.Proofs.Content.Expanding
import StyleBuild.Proofs.Theme.Rules
import StyleBuild.Proofs.Stage.Generated
import StyleBuild.Proofs.Stage.Chain
import StyleBuild.Proofs.Pipeline.Composing
import StyleBuild.Proofs.Build.Agreement
import StyleBuild.Proofs.Build.Concatenation
import StyleBuild.Proofs.Files.Growth
import StyleBuild.Proofs.Command.Building
import StyleBuild.Proofs.Content.Extracting
import StyleBuild.Proofs.Theme.Declaring
import StyleBuild.Proofs.Theme.Stacks
import StyleBuild.Proofs.Directive.Joining
import StyleBuild.Proofs.Files.Places
import StyleBuild.Proofs.Content.Finding
import StyleBuild.Proofs.Files.Walking
import StyleBuild.Proofs.Glob.Searching
import StyleBuild.Proofs.Content.Resolving
import StyleBuild.Proofs.Text.Numerals
import StyleBuild.Proofs.Yaml.Reading
import StyleBuild.Proofs.Pipeline.Rereading
import StyleBuild.Proofs.Json.Reading
import StyleBuild.Proofs.Build.Stamps
import StyleBuild.Proofs.Build.Recording
import StyleBuild.Proofs.Command.Agreeing
import StyleBuild.Proofs.Css.Occurring
import StyleBuild.Proofs.Pipeline.Validating
