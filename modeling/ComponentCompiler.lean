import ComponentCompiler.Bytes.Ascii
import ComponentCompiler.Bytes.Basic
import ComponentCompiler.Cli.Flag
import ComponentCompiler.Cli.Run
import ComponentCompiler.Component.Build
import ComponentCompiler.Component.Compile
import ComponentCompiler.Component.Discovery
import ComponentCompiler.Component.Naming
import ComponentCompiler.Component.Notice
import ComponentCompiler.Component.Options
import ComponentCompiler.Component.Report
import ComponentCompiler.Component.Weave
import ComponentCompiler.Diagnostic
import ComponentCompiler.FileTree
import ComponentCompiler.Main
import ComponentCompiler.Markup.Entity
import ComponentCompiler.Markup.Entity.Capital
import ComponentCompiler.Markup.Entity.SmallFirst
import ComponentCompiler.Markup.Entity.SmallLast
import ComponentCompiler.Markup.Forest
import ComponentCompiler.Markup.Lex
import ComponentCompiler.Markup.Lex.Raw
import ComponentCompiler.Markup.Lex.Tag
import ComponentCompiler.Markup.Node
import ComponentCompiler.Markup.Token
import ComponentCompiler.Number.Binary64
import ComponentCompiler.Number.Duration
import ComponentCompiler.Number.Literal
import ComponentCompiler.Number.Timestamp
import ComponentCompiler.Path
import ComponentCompiler.Proofs.Alignment
import ComponentCompiler.Proofs.AsciiCase
import ComponentCompiler.Proofs.BlockFaults
import ComponentCompiler.Proofs.BlockOrder
import ComponentCompiler.Proofs.BraceLine
import ComponentCompiler.Proofs.BraceStack
import ComponentCompiler.Proofs.ByteOrder
import ComponentCompiler.Proofs.ChildLists
import ComponentCompiler.Proofs.Classification
import ComponentCompiler.Proofs.Compilations
import ComponentCompiler.Proofs.ComponentName
import ComponentCompiler.Proofs.Constructor
import ComponentCompiler.Proofs.ContextLines
import ComponentCompiler.Proofs.Contributions
import ComponentCompiler.Proofs.Debounce
import ComponentCompiler.Proofs.Discovery
import ComponentCompiler.Proofs.EmptyBehavior
import ComponentCompiler.Proofs.Enclosure
import ComponentCompiler.Proofs.FactoryNames
import ComponentCompiler.Proofs.FileBuild
import ComponentCompiler.Proofs.FileTree
import ComponentCompiler.Proofs.HeaderText
import ComponentCompiler.Proofs.HookRewriting
import ComponentCompiler.Proofs.Hooks
import ComponentCompiler.Proofs.Indentation
import ComponentCompiler.Proofs.Interleaving
import ComponentCompiler.Proofs.Interpolation
import ComponentCompiler.Proofs.Lexeme
import ComponentCompiler.Proofs.LiteralTokens
import ComponentCompiler.Proofs.LiteralValue
import ComponentCompiler.Proofs.Location
import ComponentCompiler.Proofs.Nesting
import ComponentCompiler.Proofs.OpenExpressions
import ComponentCompiler.Proofs.OptionEffects
import ComponentCompiler.Proofs.OutputPath
import ComponentCompiler.Proofs.OutputTree
import ComponentCompiler.Proofs.Partition
import ComponentCompiler.Proofs.Path
import ComponentCompiler.Proofs.PlainText
import ComponentCompiler.Proofs.QuotedText
import ComponentCompiler.Proofs.Quoting
import ComponentCompiler.Proofs.Reading
import ComponentCompiler.Proofs.RebuildRoot
import ComponentCompiler.Proofs.Registry
import ComponentCompiler.Proofs.RegistryHistory
import ComponentCompiler.Proofs.Schedule
import ComponentCompiler.Proofs.ScriptElements
import ComponentCompiler.Proofs.ScriptLine
import ComponentCompiler.Proofs.ScriptStage
import ComponentCompiler.Proofs.ScriptUrl
import ComponentCompiler.Proofs.Simulation
import ComponentCompiler.Proofs.SourceListing
import ComponentCompiler.Proofs.SourceLoss
import ComponentCompiler.Proofs.SourceOrder
import ComponentCompiler.Proofs.SourceSafety
import ComponentCompiler.Proofs.Splice
import ComponentCompiler.Proofs.SplicedText
import ComponentCompiler.Proofs.StringContents
import ComponentCompiler.Proofs.SubComponents
import ComponentCompiler.Proofs.TreeGrowth
import ComponentCompiler.Proofs.Unambiguous
import ComponentCompiler.Proofs.UnsafeMarkup
import ComponentCompiler.Proofs.UnusedBlocks
import ComponentCompiler.Proofs.Utf8
import ComponentCompiler.Proofs.WatchCoverage
import ComponentCompiler.Proofs.Watcher
import ComponentCompiler.Proofs.Weave
import ComponentCompiler.Proofs.WeaveTokens
import ComponentCompiler.Proofs.WellFormed
import ComponentCompiler.Render.Expr
import ComponentCompiler.Script.Constructor
import ComponentCompiler.Script.Hooks
import ComponentCompiler.Script.Identifier
import ComponentCompiler.Script.Literal
import ComponentCompiler.Script.Scan
import ComponentCompiler.Script.Splice
import ComponentCompiler.Script.Token
import ComponentCompiler.Session.Basic
import ComponentCompiler.Session.Job
import ComponentCompiler.Settings.Basic
import ComponentCompiler.Settings.Decode
import ComponentCompiler.Settings.Interpolation
import ComponentCompiler.Settings.Load
import ComponentCompiler.Template.Attribute
import ComponentCompiler.Template.Block
import ComponentCompiler.Template.Compile
import ComponentCompiler.Template.Frames
import ComponentCompiler.Template.Registry
import ComponentCompiler.Template.Safety
import ComponentCompiler.Template.Text
import ComponentCompiler.Text.Base64
import ComponentCompiler.Text.Blank
import ComponentCompiler.Text.Case.Full
import ComponentCompiler.Text.Case.Simple
import ComponentCompiler.Text.Letter
import ComponentCompiler.Text.Printable
import ComponentCompiler.Text.Quoted
import ComponentCompiler.Text.Ranges
import ComponentCompiler.Text.Utf8
import ComponentCompiler.Watch.Basic
import ComponentCompiler.Watch.Changes
import ComponentCompiler.Watch.Loop
import ComponentCompiler.Yaml.Cursor
import ComponentCompiler.Yaml.Document
import ComponentCompiler.Yaml.Node
import ComponentCompiler.Yaml.Scalar
import ComponentCompiler.Yaml.Scan
import ComponentCompiler.Yaml.Tag
import ComponentCompiler.Yaml.Token
import ComponentCompiler.Yaml.Value
