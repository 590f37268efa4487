import SceneCompiler.Asset.Plan
import SceneCompiler.Asset.Svg
import SceneCompiler.Asset.Upload
import SceneCompiler.Compile.Hooks
import SceneCompiler.Compile.Pictures
import SceneCompiler.Compile.Pipeline
import SceneCompiler.Compile.Request
import SceneCompiler.Digest.Base64
import SceneCompiler.Digest.Hex
import SceneCompiler.Digest.Sha256
import SceneCompiler.Json.Basic
import SceneCompiler.Json.Decode
import SceneCompiler.Json.Reader
import SceneCompiler.Json.Shape
import SceneCompiler.Json.Writer
import SceneCompiler.Link.Address
import SceneCompiler.Link.Composition
import SceneCompiler.Link.Direction
import SceneCompiler.Link.DirectionTable
import SceneCompiler.Link.Domain
import SceneCompiler.Link.FoldTable
import SceneCompiler.Link.Joining
import SceneCompiler.Link.JoiningTable
import SceneCompiler.Link.Label
import SceneCompiler.Link.MarkTable
import SceneCompiler.Link.Punycode
import SceneCompiler.Link.RefusedTable
import SceneCompiler.Markup.Build
import SceneCompiler.Markup.ClassName
import SceneCompiler.Markup.Component
import SceneCompiler.Markup.Render
import SceneCompiler.Markup.Stylesheet
import SceneCompiler.Number.Decimal
import SceneCompiler.Number.Exact
import SceneCompiler.Number.Shortest
import SceneCompiler.Operation.Code
import SceneCompiler.Operation.Screenshot
import SceneCompiler.Operation.Selection
import SceneCompiler.Options
import SceneCompiler.Outline
import SceneCompiler.Plugin.Channel
import SceneCompiler.Plugin.Frame
import SceneCompiler.Plugin.FrameText
import SceneCompiler.Plugin.Hook
import SceneCompiler.Plugin.Pack
import SceneCompiler.Plugin.Runner
import SceneCompiler.Plugin.Source
import SceneCompiler.Proofs.Asset.Missing
import SceneCompiler.Proofs.Asset.Normalized
import SceneCompiler.Proofs.Asset.OpeningTag
import SceneCompiler.Proofs.Asset.Outermost
import SceneCompiler.Proofs.Asset.Plan
import SceneCompiler.Proofs.Compile.Attempts
import SceneCompiler.Proofs.Compile.Defaults
import SceneCompiler.Proofs.Compile.Index
import SceneCompiler.Proofs.Compile.IndexUpdates
import SceneCompiler.Proofs.Compile.Plain
import SceneCompiler.Proofs.Compile.Settled
import SceneCompiler.Proofs.Markup.ClassWords
import SceneCompiler.Proofs.Markup.Classes
import SceneCompiler.Proofs.Markup.Elements
import SceneCompiler.Proofs.Markup.Placement
import SceneCompiler.Proofs.Markup.RawMarkup
import SceneCompiler.Proofs.Markup.Reading
import SceneCompiler.Proofs.Markup.RoundTrip
import SceneCompiler.Proofs.Markup.Rules
import SceneCompiler.Proofs.Markup.Texts
import SceneCompiler.Proofs.Number.DecimalText
import SceneCompiler.Proofs.Number.ShortForm
import SceneCompiler.Proofs.Number.Value
import SceneCompiler.Proofs.Operation.Account
import SceneCompiler.Proofs.Operation.Code
import SceneCompiler.Proofs.Operation.FailingCalls
import SceneCompiler.Proofs.Operation.Failures
import SceneCompiler.Proofs.Operation.History
import SceneCompiler.Proofs.Operation.References
import SceneCompiler.Proofs.Operation.Screenshot
import SceneCompiler.Proofs.Operation.Selection
import SceneCompiler.Proofs.Operation.Settled
import SceneCompiler.Proofs.Operation.Structure
import SceneCompiler.Proofs.Operation.TokenDefs
import SceneCompiler.Proofs.Operation.TokenNames
import SceneCompiler.Proofs.Operation.Visibility
import SceneCompiler.Proofs.Plugin.Calls
import SceneCompiler.Proofs.Plugin.Contents
import SceneCompiler.Proofs.Plugin.Defaults
import SceneCompiler.Proofs.Plugin.Edges
import SceneCompiler.Proofs.Plugin.Frames
import SceneCompiler.Proofs.Plugin.Globals
import SceneCompiler.Proofs.Plugin.InStep
import SceneCompiler.Proofs.Plugin.Lexical
import SceneCompiler.Proofs.Plugin.Literals
import SceneCompiler.Proofs.Plugin.Masking
import SceneCompiler.Proofs.Plugin.Nesting
import SceneCompiler.Proofs.Plugin.Packing
import SceneCompiler.Proofs.Plugin.Replies
import SceneCompiler.Proofs.Plugin.Scanning
import SceneCompiler.Proofs.RichText.Blocks
import SceneCompiler.Proofs.RichText.Breaks
import SceneCompiler.Proofs.RichText.Lines
import SceneCompiler.Proofs.RichText.Normalized
import SceneCompiler.Proofs.RichText.Runs
import SceneCompiler.Proofs.Scene.Aged
import SceneCompiler.Proofs.Scene.Chronicle
import SceneCompiler.Proofs.Scene.Forest
import SceneCompiler.Proofs.Scene.Links
import SceneCompiler.Proofs.Scene.Loaded
import SceneCompiler.Proofs.Scene.PaintOrder
import SceneCompiler.Proofs.Scene.Reachable
import SceneCompiler.Proofs.Scene.Removal
import SceneCompiler.Proofs.Session.Coupled
import SceneCompiler.Proofs.Session.Determined
import SceneCompiler.Proofs.Session.Ensures
import SceneCompiler.Proofs.Session.Flights
import SceneCompiler.Proofs.Session.Frame
import SceneCompiler.Proofs.Session.InFlight
import SceneCompiler.Proofs.Session.SingleFlight
import SceneCompiler.Proofs.Session.Steps
import SceneCompiler.Proofs.Session.Uploads
import SceneCompiler.Proofs.Style.Corrected
import SceneCompiler.Proofs.Style.Corrections
import SceneCompiler.Proofs.Style.Pixels
import SceneCompiler.Proofs.Style.Places
import SceneCompiler.Proofs.Table
import SceneCompiler.Proofs.Text.Spans
import SceneCompiler.Proofs.Token.Agreement
import SceneCompiler.Proofs.Token.Aliases
import SceneCompiler.Proofs.Token.Bucket
import SceneCompiler.Proofs.Token.Candidates
import SceneCompiler.Proofs.Token.Extension
import SceneCompiler.Proofs.Token.Grammar
import SceneCompiler.Proofs.Token.Identifier
import SceneCompiler.Proofs.Token.Pieces
import SceneCompiler.Proofs.Token.Rewriting
import SceneCompiler.Proofs.Token.Table
import SceneCompiler.Proofs.Token.WholeReferences
import SceneCompiler.Proofs.Tree.Blocks
import SceneCompiler.Proofs.Tree.DepthLimit
import SceneCompiler.Proofs.Tree.Listing
import SceneCompiler.Proofs.Tree.Order
import SceneCompiler.Proofs.Tree.Outline
import SceneCompiler.Proofs.Tree.OutlineNames
import SceneCompiler.Proofs.Tree.Preorder
import SceneCompiler.Proofs.Tree.Represents
import SceneCompiler.Proofs.Tree.Stack
import SceneCompiler.Proofs.Tree.Termination
import SceneCompiler.Proofs.Tree.Walk
import SceneCompiler.RichText.Block
import SceneCompiler.RichText.Encode
import SceneCompiler.RichText.Run
import SceneCompiler.Scene.Decode
import SceneCompiler.Scene.Document
import SceneCompiler.Scene.Encode
import SceneCompiler.Scene.Graph
import SceneCompiler.Scene.Id
import SceneCompiler.Scene.Node
import SceneCompiler.Session.Caches
import SceneCompiler.Session.Error
import SceneCompiler.Session.Export
import SceneCompiler.Session.InFlight
import SceneCompiler.Style.Basic
import SceneCompiler.Style.Pixels
import SceneCompiler.Style.Sanitize
import SceneCompiler.Text.Class
import SceneCompiler.Text.Hidden
import SceneCompiler.Text.Hyphenate
import SceneCompiler.Text.Letter
import SceneCompiler.Token.Encode
import SceneCompiler.Token.Expression
import SceneCompiler.Token.Index
import SceneCompiler.Token.Name
import SceneCompiler.Token.Rewrite
import SceneCompiler.Token.Value
import SceneCompiler.Tree.Basic
import SceneCompiler.Tree.Build
import SceneCompiler.Tree.Encode
