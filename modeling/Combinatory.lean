import Combinatory.Arena.Basic
import Combinatory.Arena.Ops
import Combinatory.Arena.Methods
import Combinatory.Artifact.Basic
import Combinatory.Artifact.Codec
import Combinatory.Artifact.Encode
import Combinatory.Artifact.File
import Combinatory.Artifact.Unpack
import Combinatory.ChainedMap
import Combinatory.Cli.Commands
import Combinatory.Cli.Disk
import Combinatory.Cli.Flags
import Combinatory.Cli.Run
import Combinatory.Cli.Session
import Combinatory.Combinator.Convert
import Combinatory.Combinator.Store
import Combinatory.Compress.BitStream
import Combinatory.Compress.DecodeError
import Combinatory.Compress.Fse
import Combinatory.Compress.Huffman
import Combinatory.Compress.Literals
import Combinatory.Compress.Lz4
import Combinatory.Compress.Sequences
import Combinatory.Compress.XxHash
import Combinatory.Compress.Zstd
import Combinatory.Compress.ZstdBlock
import Combinatory.Config.Load
import Combinatory.Config.Settings
import Combinatory.Diagnostic.Bag
import Combinatory.Diagnostic.Basic
import Combinatory.Diagnostic.Pretty
import Combinatory.Log.Level
import Combinatory.Log.Record
import Combinatory.Main
import Combinatory.NameMap
import Combinatory.Number.Decimal
import Combinatory.Number.Dyadic
import Combinatory.Number.Numeral
import Combinatory.Number.Power
import Combinatory.Pipeline.Compile
import Combinatory.Pipeline.Paths
import Combinatory.Pipeline.Tokenize
import Combinatory.Render.Json
import Combinatory.Render.Outline
import Combinatory.Render.Panel
import Combinatory.Render.Tokens
import Combinatory.Render.Trees
import Combinatory.Scope.Binders
import Combinatory.Scope.BinderArray
import Combinatory.Scope.Check
import Combinatory.Source.File
import Combinatory.Source.Path
import Combinatory.Syntax.Lexer
import Combinatory.Syntax.Stream
import Combinatory.Syntax.Token
import Combinatory.Text.Ansi
import Combinatory.Text.Canonical
import Combinatory.Text.CanonicalData
import Combinatory.Text.Category
import Combinatory.Text.GraphemeData
import Combinatory.Text.Quoted
import Combinatory.Text.RangeTable
import Combinatory.Text.Space
import Combinatory.Text.Terminal
import Combinatory.Text.Utf8
import Combinatory.Text.Width
import Combinatory.Text.WidthData
import Combinatory.Toml.Lexer
import Combinatory.Toml.Parser
import Combinatory.Toml.Value
import Combinatory.Tree.Basic
import Combinatory.Tree.Build
import Combinatory.Tree.Curry
import Combinatory.Tree.Invariants
import Combinatory.Tree.Parser
import Combinatory.Proofs.Lambda
import Combinatory.Proofs.Bracket
import Combinatory.Proofs.Source
import Combinatory.Proofs.Shape
import Combinatory.Proofs.Store
import Combinatory.Proofs.Names
import Combinatory.Proofs.State
import Combinatory.Proofs.Convert
import Combinatory.Proofs.Check
import Combinatory.Proofs.Located
import Combinatory.Proofs.Curry
import Combinatory.Proofs.Parse
import Combinatory.Proofs.Pipeline
import Combinatory.Proofs.Denotation
import Combinatory.Proofs.Reports
import Combinatory.Proofs.ArenaLayout
import Combinatory.Proofs.ArenaLedger
import Combinatory.Proofs.Grammar
import Combinatory.Proofs.Recognize
import Combinatory.Proofs.Decode
import Combinatory.Proofs.Glyphs
import Combinatory.Proofs.Lexing
import Combinatory.Proofs.LexerStream
import Combinatory.Proofs.Reduction
import Combinatory.Proofs.Chaining
import Combinatory.Proofs.Framing
import Combinatory.Proofs.Exhaustion
import Combinatory.Proofs.Scope
import Combinatory.Proofs.Sharing
import Combinatory.Proofs.Alpha
import Combinatory.Proofs.CurryForm
import Combinatory.Proofs.ParseSpans
import Combinatory.Proofs.ArenaMethods
import Combinatory.Proofs.ArenaBytes
import Combinatory.Proofs.ArenaContracts
import Combinatory.Proofs.Emission
import Combinatory.Proofs.SharedNodes
import Combinatory.Proofs.Flatten
import Combinatory.Proofs.Lines
import Combinatory.Proofs.Records
import Combinatory.Proofs.SpanCheck
import Combinatory.Proofs.Recovery
import Combinatory.Proofs.Ownership
import Combinatory.Proofs.LoadFactor
import Combinatory.Proofs.BinderStack
import Combinatory.Proofs.BinderCapacity
import Combinatory.Proofs.ArenaGeometry
import Combinatory.Proofs.Footprint
import Combinatory.Proofs.Settings
import Combinatory.Proofs.Rendering
import Combinatory.Proofs.ScopeStack
import Combinatory.Proofs.Accounting
import Combinatory.Proofs.CharacterTables
