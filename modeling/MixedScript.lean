import MixedScript.CommandLine.Args
import MixedScript.CommandLine.Similarity
import MixedScript.Compile
import MixedScript.Config
import MixedScript.Directive
import MixedScript.Error
import MixedScript.Explain
import MixedScript.FileTree
import MixedScript.Layout.Marker
import MixedScript.Layout.Scan
import MixedScript.Layout.Span
import MixedScript.Line.Class
import MixedScript.Line.Classify
import MixedScript.Line.Parts
import MixedScript.Main
import MixedScript.Path
import MixedScript.Scope.Basic
import MixedScript.Scope.Collect
import MixedScript.Scope.NameSet
import MixedScript.Target.HostText
import MixedScript.Target.Preamble
import MixedScript.Target.Program
import MixedScript.Target.ShellText
import MixedScript.Target.Statement
import MixedScript.Text.Base64
import MixedScript.Text.Blank
import MixedScript.Text.Utf8
import MixedScript.Text.Word
import MixedScript.Proofs.FileTree.Writes
import MixedScript.Proofs.Layout.Cells
import MixedScript.Proofs.Layout.Sheet
import MixedScript.Proofs.Layout.Step
import MixedScript.Proofs.Layout.Tracks
import MixedScript.Proofs.Layout.Lines
import MixedScript.Proofs.Layout.OfSource
import MixedScript.Proofs.Layout.HardBreak
import MixedScript.Proofs.Directive.Shape
import MixedScript.Proofs.Directive.Artifact
import MixedScript.Proofs.Layout.Directives
import MixedScript.Proofs.Compile.Expand
import MixedScript.Proofs.Target.Splice
import MixedScript.Proofs.Target.StatementLine
import MixedScript.Proofs.Target.Emit
import MixedScript.Proofs.Target.ShellStatus
import MixedScript.Proofs.Compile.Outcome
import MixedScript.Proofs.Compile.Session
import MixedScript.Proofs.Compile.Imports
import MixedScript.Proofs.Line.Classify
import MixedScript.Proofs.Compile.Explained
import MixedScript.Proofs.Explain.Rows
import MixedScript.Proofs.Compile.SourceCall
import MixedScript.Proofs.Compile.Artifacts
import MixedScript.Proofs.Target.Literal
import MixedScript.Proofs.Target.Arguments
import MixedScript.Proofs.Line.MoreNames
import MixedScript.Proofs.Layout.Columns
import MixedScript.Proofs.Line.Parts
import MixedScript.Proofs.Config.Load
import MixedScript.Proofs.Scope.Imports
