import Descriptor.Binary64
import Descriptor.Binary64.Reader
import Descriptor.Binary64.Shortest
import Descriptor.Builtin
import Descriptor.Call
import Descriptor.CommandLine
import Descriptor.CommandLine.Arguments
import Descriptor.Condition
import Descriptor.Context
import Descriptor.Decimal
import Descriptor.Definition
import Descriptor.Environment
import Descriptor.Execution
import Descriptor.Failure
import Descriptor.Guid
import Descriptor.Keyed
import Descriptor.Kind
import Descriptor.Main
import Descriptor.Project
import Descriptor.Proofs.Acceptance
import Descriptor.Proofs.Accumulation
import Descriptor.Proofs.Boundary
import Descriptor.Proofs.BuiltContexts
import Descriptor.Proofs.Comparison
import Descriptor.Proofs.Composition
import Descriptor.Proofs.Cuts
import Descriptor.Proofs.Definitions
import Descriptor.Proofs.Dispatch
import Descriptor.Proofs.Encoding
import Descriptor.Proofs.FirstComponent
import Descriptor.Proofs.Footing
import Descriptor.Proofs.Grammar
import Descriptor.Proofs.History
import Descriptor.Proofs.Identifiers
import Descriptor.Proofs.Levels
import Descriptor.Proofs.Lockstep
import Descriptor.Proofs.LongestPrefix
import Descriptor.Proofs.Lookahead
import Descriptor.Proofs.Meaning
import Descriptor.Proofs.Observation
import Descriptor.Proofs.Pattern
import Descriptor.Proofs.Places
import Descriptor.Proofs.Productions
import Descriptor.Proofs.Progress
import Descriptor.Proofs.Pushback
import Descriptor.Proofs.Quoting
import Descriptor.Proofs.Rejoining
import Descriptor.Proofs.Reports
import Descriptor.Proofs.Resolution
import Descriptor.Proofs.Saturation
import Descriptor.Proofs.Scopes
import Descriptor.Proofs.Separation
import Descriptor.Proofs.Session
import Descriptor.Proofs.Spelling
import Descriptor.Proofs.Substitution
import Descriptor.Proofs.Typed
import Descriptor.Proofs.Unread
import Descriptor.Proofs.Versions
import Descriptor.Proofs.Walk
import Descriptor.Proofs.World
import Descriptor.Registry
import Descriptor.Scan
import Descriptor.SymbolTable
import Descriptor.Template
import Descriptor.Text.Alphanumeric
import Descriptor.Text.Blank
import Descriptor.Text.Casing
import Descriptor.Text.Casing.Context
import Descriptor.Text.Casing.Lower
import Descriptor.Text.Casing.Mapping
import Descriptor.Text.Casing.Upper
import Descriptor.Text.CharClass
import Descriptor.Text.Pieces
import Descriptor.Token
import Descriptor.Tokenizer
import Descriptor.Value
import Descriptor.Value.Relation
import Descriptor.Version
import Descriptor.Worksheet
