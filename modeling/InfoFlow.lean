import InfoFlow.AccessPath.Basic
import InfoFlow.AccessPath.ChainSet
import InfoFlow.AccessPath.Json
import InfoFlow.AccessPath.Root
import InfoFlow.AccessPath.Selector
import InfoFlow.Command.Line
import InfoFlow.Command.Run
import InfoFlow.Compiler
import InfoFlow.Config.Store
import InfoFlow.Config.Toolchain
import InfoFlow.Datalog.Atom
import InfoFlow.Datalog.Rule
import InfoFlow.Emission
import InfoFlow.Entries
import InfoFlow.Fact.Basic
import InfoFlow.Fact.Json
import InfoFlow.Fault
import InfoFlow.Host.Basic
import InfoFlow.Host.Path
import InfoFlow.Host.Tree
import InfoFlow.Identifier
import InfoFlow.Json.Buffered
import InfoFlow.Json.Form
import InfoFlow.Json.Numeral
import InfoFlow.Json.Outline
import InfoFlow.Json.Reader
import InfoFlow.Json.Token
import InfoFlow.Json.Value
import InfoFlow.Main
import InfoFlow.Manifest.Basic
import InfoFlow.Manifest.Expansion
import InfoFlow.Manifest.Json
import InfoFlow.Manifest.Load
import InfoFlow.Predicate.Basic
import InfoFlow.Predicate.Body
import InfoFlow.Predicate.Json
import InfoFlow.Program.Basic
import InfoFlow.Program.Collision
import InfoFlow.Proofs.AccessPath.ChainSet
import InfoFlow.Proofs.AccessPath.Prepending
import InfoFlow.Proofs.AccessPath.Terms
import InfoFlow.Proofs.Command.Emit
import InfoFlow.Proofs.Compiler.Places
import InfoFlow.Proofs.Compiler.Runs
import InfoFlow.Proofs.Config.Directories
import InfoFlow.Proofs.Config.Documents
import InfoFlow.Proofs.Config.Runs
import InfoFlow.Proofs.Datalog.Evaluation
import InfoFlow.Proofs.Datalog.Literals
import InfoFlow.Proofs.Datalog.Names
import InfoFlow.Proofs.Datalog.Reading
import InfoFlow.Proofs.Datalog.RoundTrip
import InfoFlow.Proofs.Datalog.Text
import InfoFlow.Proofs.Datalog.Token
import InfoFlow.Proofs.Emission.Calls
import InfoFlow.Proofs.Emission.Names
import InfoFlow.Proofs.Host.Making
import InfoFlow.Proofs.Host.Meetings
import InfoFlow.Proofs.Host.Notes
import InfoFlow.Proofs.Host.Path
import InfoFlow.Proofs.Host.Tree
import InfoFlow.Proofs.Host.Ways
import InfoFlow.Proofs.Json.Forms
import InfoFlow.Proofs.Json.Outline
import InfoFlow.Proofs.Json.Removal
import InfoFlow.Proofs.Json.RoundTrip
import InfoFlow.Proofs.Json.Source
import InfoFlow.Proofs.Json.Token
import InfoFlow.Proofs.Manifest.Decoding
import InfoFlow.Proofs.Manifest.Expansion
import InfoFlow.Proofs.Manifest.Includes
import InfoFlow.Proofs.Manifest.Instances
import InfoFlow.Proofs.Manifest.Parts
import InfoFlow.Proofs.Manifest.Removal
import InfoFlow.Proofs.Manifest.Reordering
import InfoFlow.Proofs.Manifest.Validity
import InfoFlow.Proofs.Manifest.WellFormed
import InfoFlow.Proofs.Predicate.Compiled
import InfoFlow.Proofs.Predicate.Guards
import InfoFlow.Proofs.Predicate.Helpers
import InfoFlow.Proofs.Predicate.Meaning
import InfoFlow.Proofs.Program.Collision
import InfoFlow.Proofs.Program.Criterion
import InfoFlow.Proofs.Program.Decoding
import InfoFlow.Proofs.Program.Meaning
import InfoFlow.Proofs.Program.Names
import InfoFlow.Proofs.Program.Namespaces
import InfoFlow.Proofs.Program.PathTerms
import InfoFlow.Proofs.Program.Readable
import InfoFlow.Proofs.Program.Rules
import InfoFlow.Proofs.Program.Sentences
import InfoFlow.Proofs.Program.Text
import InfoFlow.Proofs.Sandbox.Launching
import InfoFlow.Proofs.Schema.Activations
import InfoFlow.Proofs.Schema.Cache
import InfoFlow.Proofs.Schema.Calls
import InfoFlow.Proofs.Schema.Cycles
import InfoFlow.Proofs.Schema.Declarations
import InfoFlow.Proofs.Schema.Expansion
import InfoFlow.Proofs.Schema.LeafChains
import InfoFlow.Proofs.Schema.LeafPositions
import InfoFlow.Proofs.Schema.Leaves
import InfoFlow.Proofs.Schema.References
import InfoFlow.Proofs.Schema.Reordering
import InfoFlow.Proofs.Schema.Termination
import InfoFlow.Proofs.Steps
import InfoFlow.Proofs.Validity
import InfoFlow.Sandbox.Awk.Grammar
import InfoFlow.Sandbox.Awk.Program
import InfoFlow.Sandbox.Awk.Run
import InfoFlow.Sandbox.Awk.Session
import InfoFlow.Sandbox.Awk.Table
import InfoFlow.Sandbox.Awk.Token
import InfoFlow.Sandbox.Awk.Value
import InfoFlow.Sandbox.CharSet
import InfoFlow.Sandbox.Condition
import InfoFlow.Sandbox.Decimal
import InfoFlow.Sandbox.Digest
import InfoFlow.Sandbox.Editor.Grammar
import InfoFlow.Sandbox.Editor.Run
import InfoFlow.Sandbox.Editor.Script
import InfoFlow.Sandbox.Edits
import InfoFlow.Sandbox.Escape
import InfoFlow.Sandbox.Finding
import InfoFlow.Sandbox.Format
import InfoFlow.Sandbox.Machine
import InfoFlow.Sandbox.Mode
import InfoFlow.Sandbox.Options
import InfoFlow.Sandbox.Pattern
import InfoFlow.Sandbox.Programs
import InfoFlow.Sandbox.Query
import InfoFlow.Sandbox.Quoting
import InfoFlow.Sandbox.Raw
import InfoFlow.Sandbox.Regex
import InfoFlow.Sandbox.Shell.Arguments
import InfoFlow.Sandbox.Shell.Arithmetic
import InfoFlow.Sandbox.Shell.Builtin
import InfoFlow.Sandbox.Shell.Expansion
import InfoFlow.Sandbox.Shell.Grammar
import InfoFlow.Sandbox.Shell.Run
import InfoFlow.Sandbox.Shell.Script
import InfoFlow.Sandbox.Shell.Session
import InfoFlow.Sandbox.Shell.Signal
import InfoFlow.Sandbox.Utility.Blocks
import InfoFlow.Sandbox.Utility.Contents
import InfoFlow.Sandbox.Utility.Difference
import InfoFlow.Sandbox.Utility.Dump
import InfoFlow.Sandbox.Utility.EachWord
import InfoFlow.Sandbox.Utility.Encoding
import InfoFlow.Sandbox.Utility.Files
import InfoFlow.Sandbox.Utility.Finding
import InfoFlow.Sandbox.Utility.Join
import InfoFlow.Sandbox.Utility.Letters
import InfoFlow.Sandbox.Utility.Lines
import InfoFlow.Sandbox.Utility.Listing
import InfoFlow.Sandbox.Utility.Numbering
import InfoFlow.Sandbox.Utility.Order
import InfoFlow.Sandbox.Utility.Portions
import InfoFlow.Sandbox.Utility.Reading
import InfoFlow.Sandbox.Utility.Search
import InfoFlow.Sandbox.Utility.Starting
import InfoFlow.Sandbox.Utility.Sums
import InfoFlow.Sandbox.Utility.Words
import InfoFlow.Schema.Basic
import InfoFlow.Schema.Catalog
import InfoFlow.Schema.Declaration
import InfoFlow.Schema.Json
import InfoFlow.TagCheck.Basic
import InfoFlow.TagCheck.Json
import InfoFlow.Text.CharClass
import InfoFlow.Text.Quoted
import InfoFlow.Text.Unprintable
import InfoFlow.Text.Utf8
