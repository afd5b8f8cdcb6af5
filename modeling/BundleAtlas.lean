import BundleAtlas.Bundle.Search
import BundleAtlas.Bundle.Split
import BundleAtlas.Bundle.Store
import BundleAtlas.Bundle.Unit
import BundleAtlas.Bundle.Unpack
import BundleAtlas.Bundle.Vendor
import BundleAtlas.Datum
import BundleAtlas.Dialect
import BundleAtlas.Fault
import BundleAtlas.Fault.Kind
import BundleAtlas.Files.Folder
import BundleAtlas.Files.Path
import BundleAtlas.Grammar.Binding
import BundleAtlas.Grammar.Class
import BundleAtlas.Grammar.Element
import BundleAtlas.Grammar.Expression
import BundleAtlas.Grammar.Letter
import BundleAtlas.Grammar.Lexeme
import BundleAtlas.Grammar.Phrase
import BundleAtlas.Grammar.Reader
import BundleAtlas.Grammar.Rule
import BundleAtlas.Grammar.Script
import BundleAtlas.Grammar.Semicolon
import BundleAtlas.Grammar.Statement
import BundleAtlas.Grammar.TypeExpression
import BundleAtlas.Journal.Entry
import BundleAtlas.Journal.Recorder
import BundleAtlas.Journal.Template
import BundleAtlas.Layout.Bracket
import BundleAtlas.Layout.Code
import BundleAtlas.Layout.Format
import BundleAtlas.Layout.Frame
import BundleAtlas.Layout.Note
import BundleAtlas.Layout.Operator
import BundleAtlas.Layout.Page
import BundleAtlas.Layout.Scanner
import BundleAtlas.Layout.Statement
import BundleAtlas.Layout.Stylesheet
import BundleAtlas.Layout.Token
import BundleAtlas.Layout.Word
import BundleAtlas.Packed.Percent
import BundleAtlas.Packed.Reversed
import BundleAtlas.Packed.StringTable
import BundleAtlas.Packed.Unpacking
import BundleAtlas.Packed.WordTable
import BundleAtlas.Parsed
import BundleAtlas.Pattern.Basic
import BundleAtlas.Pattern.Match
import BundleAtlas.Pattern.Reader
import BundleAtlas.Proofs.Bundle.ArrayIndices
import BundleAtlas.Proofs.Bundle.CommentedTable
import BundleAtlas.Proofs.Bundle.FirstTable
import BundleAtlas.Proofs.Bundle.ModuleIds
import BundleAtlas.Proofs.Bundle.ObjectKeys
import BundleAtlas.Proofs.Bundle.Search
import BundleAtlas.Proofs.Bundle.Table
import BundleAtlas.Proofs.Bundle.UnitCuts
import BundleAtlas.Proofs.Bundle.VendorPath
import BundleAtlas.Proofs.Dialect.Agreement
import BundleAtlas.Proofs.Dialect.Parameter
import BundleAtlas.Proofs.Dialect.Site
import BundleAtlas.Proofs.Dialect.TypedForm
import BundleAtlas.Proofs.Dialect.Walk
import BundleAtlas.Proofs.Fault
import BundleAtlas.Proofs.Files.Folder
import BundleAtlas.Proofs.Files.Refusal
import BundleAtlas.Proofs.Grammar.ArrayForm
import BundleAtlas.Proofs.Grammar.DeclarationForm
import BundleAtlas.Proofs.Grammar.FunctionForm
import BundleAtlas.Proofs.Grammar.Invariant
import BundleAtlas.Proofs.Grammar.LaidOut
import BundleAtlas.Proofs.Grammar.NameForm
import BundleAtlas.Proofs.Grammar.Naming
import BundleAtlas.Proofs.Grammar.Part
import BundleAtlas.Proofs.Grammar.Placement
import BundleAtlas.Proofs.Grammar.Position
import BundleAtlas.Proofs.Grammar.Reading
import BundleAtlas.Proofs.Grammar.Spacing
import BundleAtlas.Proofs.Journal.Delivery
import BundleAtlas.Proofs.Packed.Broken
import BundleAtlas.Proofs.Packed.Fault
import BundleAtlas.Proofs.Pattern.Limit
import BundleAtlas.Proofs.Schema.IntegerText
import BundleAtlas.Proofs.Settings.RoundTrip
import BundleAtlas.Proofs.Symbol.CallGraph
import BundleAtlas.Proofs.Symbol.CallerName
import BundleAtlas.Proofs.Symbol.CommentedNode
import BundleAtlas.Proofs.Symbol.CommentedUnit
import BundleAtlas.Proofs.Symbol.Duality
import BundleAtlas.Proofs.Symbol.Edges
import BundleAtlas.Proofs.Symbol.ExactName
import BundleAtlas.Proofs.Symbol.Extent
import BundleAtlas.Proofs.Symbol.LineOrder
import BundleAtlas.Proofs.Symbol.LocalGraph
import BundleAtlas.Proofs.Symbol.Outline
import BundleAtlas.Proofs.Symbol.OutlineLimit
import BundleAtlas.Proofs.Symbol.Prefilter
import BundleAtlas.Proofs.Symbol.Runner
import BundleAtlas.Proofs.Symbol.Scan
import BundleAtlas.Proofs.Symbol.Scope
import BundleAtlas.Proofs.Symbol.Shape
import BundleAtlas.Proofs.Symbol.Skipped
import BundleAtlas.Proofs.Symbol.Visitors
import BundleAtlas.Proofs.Text.LineBreak
import BundleAtlas.Proofs.Text.LineColumn
import BundleAtlas.Proofs.Text.Occurrence
import BundleAtlas.Proofs.Text.Utf8
import BundleAtlas.Proofs.Text.Utf8Validity
import BundleAtlas.Proofs.Tool.Envelope
import BundleAtlas.Proofs.Tool.FileInput
import BundleAtlas.Proofs.Tool.GivenSettings
import BundleAtlas.Proofs.Tool.History
import BundleAtlas.Proofs.Tool.Lookup
import BundleAtlas.Proofs.Tool.Outcome
import BundleAtlas.Proofs.Tool.Queries
import BundleAtlas.Proofs.Tool.Session
import BundleAtlas.Proofs.Tool.SettingsInForce
import BundleAtlas.Proofs.Tool.UnpackFailure
import BundleAtlas.Proofs.Tool.Unpacking
import BundleAtlas.Proofs.Tool.VendorUnits
import BundleAtlas.Proofs.Tree.Address
import BundleAtlas.Proofs.Tree.Commented
import BundleAtlas.Proofs.Tree.First
import BundleAtlas.Proofs.Tree.Preorder
import BundleAtlas.Schema.Basic
import BundleAtlas.Schema.Integer
import BundleAtlas.Session
import BundleAtlas.Settings
import BundleAtlas.Symbol.CallGraph
import BundleAtlas.Symbol.Declaration
import BundleAtlas.Symbol.Inventory
import BundleAtlas.Symbol.Locate
import BundleAtlas.Symbol.Outline
import BundleAtlas.Text.Blank
import BundleAtlas.Text.CharTable
import BundleAtlas.Text.CharacterName
import BundleAtlas.Text.CharacterName.Letter
import BundleAtlas.Text.CharacterName.Pictograph
import BundleAtlas.Text.CharacterName.Run
import BundleAtlas.Text.CharacterName.Sign
import BundleAtlas.Text.Identifier
import BundleAtlas.Text.Letter
import BundleAtlas.Text.LineBreak
import BundleAtlas.Text.Numeral
import BundleAtlas.Text.Piece
import BundleAtlas.Text.Place
import BundleAtlas.Text.Quoted
import BundleAtlas.Text.SmallLetter
import BundleAtlas.Text.Utf8
import BundleAtlas.Tool.Answer
import BundleAtlas.Tool.Arguments
import BundleAtlas.Tool.Catalog
import BundleAtlas.Tool.Envelope
import BundleAtlas.Tool.Manual
import BundleAtlas.Tool.Request
import BundleAtlas.Tool.Run
import BundleAtlas.Tool.Workspace
import BundleAtlas.Tree.Kind
import BundleAtlas.Tree.Node
import BundleAtlas.Tree.Walk
