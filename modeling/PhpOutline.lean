import PhpOutline.ClassLike
import PhpOutline.CommandLine.Arguments
import PhpOutline.CommandLine.Command
import PhpOutline.CommandLine.Run
import PhpOutline.Comment
import PhpOutline.Cursor
import PhpOutline.Fault
import PhpOutline.FileTree.Basic
import PhpOutline.FileTree.Walk
import PhpOutline.Folder.ClassIndex
import PhpOutline.Folder.Event
import PhpOutline.Folder.Scan
import PhpOutline.Glob.Basic
import PhpOutline.Glob.Parse
import PhpOutline.Heritage
import PhpOutline.Import
import PhpOutline.Json
import PhpOutline.Main
import PhpOutline.Method
import PhpOutline.Namespace
import PhpOutline.Nesting
import PhpOutline.Outline
import PhpOutline.Path
import PhpOutline.Proofs.Attribute
import PhpOutline.Proofs.Body.Records
import PhpOutline.Proofs.Body.Spans
import PhpOutline.Proofs.ClassBodies
import PhpOutline.Proofs.Cursor
import PhpOutline.Proofs.Cursor.Saturation
import PhpOutline.Proofs.FileTree.Descent
import PhpOutline.Proofs.FileTree.Follow
import PhpOutline.Proofs.FileTree.Growth
import PhpOutline.Proofs.FileTree.Removal
import PhpOutline.Proofs.FileTree.Walk
import PhpOutline.Proofs.Folder.ClassImports
import PhpOutline.Proofs.Folder.ClassIndex
import PhpOutline.Proofs.Folder.ClassLookup
import PhpOutline.Proofs.Folder.Collect
import PhpOutline.Proofs.Folder.Creation
import PhpOutline.Proofs.Folder.Scan
import PhpOutline.Proofs.Folder.Selection
import PhpOutline.Proofs.Heritage.Comments
import PhpOutline.Proofs.Heritage.FullNames
import PhpOutline.Proofs.Heritage.Parent
import PhpOutline.Proofs.Import.AnonymousClass
import PhpOutline.Proofs.Import.Grammar
import PhpOutline.Proofs.Import.Reported
import PhpOutline.Proofs.ImportMark
import PhpOutline.Proofs.Location
import PhpOutline.Proofs.Method
import PhpOutline.Proofs.MethodRecord
import PhpOutline.Proofs.MethodTexts
import PhpOutline.Proofs.Mismatch
import PhpOutline.Proofs.Nesting
import PhpOutline.Proofs.Outline
import PhpOutline.Proofs.Parts
import PhpOutline.Proofs.Path
import PhpOutline.Proofs.Property
import PhpOutline.Proofs.Property.Leaps
import PhpOutline.Proofs.Property.Statement
import PhpOutline.Proofs.Reach
import PhpOutline.Proofs.Reports
import PhpOutline.Proofs.Site
import PhpOutline.Proofs.Span
import PhpOutline.Proofs.SpanOrder
import PhpOutline.Proofs.Sweep
import PhpOutline.Proofs.Text.ByteOrder
import PhpOutline.Proofs.Text.Split
import PhpOutline.Proofs.Text.Trim
import PhpOutline.Proofs.Token.Basic
import PhpOutline.Proofs.Token.Comment
import PhpOutline.Proofs.Token.CutStable
import PhpOutline.Proofs.Token.Delimited
import PhpOutline.Proofs.Token.Excerpt
import PhpOutline.Proofs.Token.Lexeme
import PhpOutline.Proofs.Token.Pattern
import PhpOutline.Proofs.Token.Round
import PhpOutline.Proofs.Token.Shape
import PhpOutline.Proofs.Token.Tokenize
import PhpOutline.Proofs.Token.Truncation
import PhpOutline.Proofs.Traversal
import PhpOutline.Proofs.Trivia.Bare
import PhpOutline.Proofs.Trivia.Outline
import PhpOutline.Proofs.Trivia.Records
import PhpOutline.Proofs.Trivia.Search
import PhpOutline.Proofs.Trivia.Spans
import PhpOutline.Proofs.Trivia.Squeezed
import PhpOutline.Proofs.Trivia.Sweep
import PhpOutline.Property
import PhpOutline.Report.Document
import PhpOutline.Report.Pretty
import PhpOutline.Report.Record
import PhpOutline.Report.Style
import PhpOutline.Settings
import PhpOutline.Settings.Document
import PhpOutline.Site
import PhpOutline.Span
import PhpOutline.Text.Alphabetic
import PhpOutline.Text.Basic
import PhpOutline.Text.Quoted
import PhpOutline.Text.Word
import PhpOutline.Token.Basic
import PhpOutline.Token.Excerpt
import PhpOutline.Token.Kind
import PhpOutline.Token.Lexeme
import PhpOutline.Token.Pattern
import PhpOutline.Token.Tokenize
import PhpOutline.Yaml.Node
import PhpOutline.Yaml.Scalar
import PhpOutline.Yaml.Scan
import PhpOutline.Yaml.Token
