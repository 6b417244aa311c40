import FederationSplit.CommandLine.Arguments
import FederationSplit.CommandLine.Command
import FederationSplit.CommandLine.Request
import FederationSplit.CommandLine.WorkflowCommand
import FederationSplit.Federation.Artifacts
import FederationSplit.Federation.Composition
import FederationSplit.Federation.Entities
import FederationSplit.Federation.FieldSet
import FederationSplit.Federation.GraphName
import FederationSplit.Federation.KeyFields
import FederationSplit.Federation.Link
import FederationSplit.Federation.Loading
import FederationSplit.Federation.Names
import FederationSplit.Federation.Prelude
import FederationSplit.Federation.Scaffold
import FederationSplit.Federation.Subgraph
import FederationSplit.Files.FileTree
import FederationSplit.Files.Path
import FederationSplit.Generation.Generator
import FederationSplit.Generation.Header
import FederationSplit.Generation.Progress
import FederationSplit.Json.Parser
import FederationSplit.Json.Printer
import FederationSplit.Json.Real
import FederationSplit.Json.Value
import FederationSplit.Main
import FederationSplit.Output.SchemaFile
import FederationSplit.Output.SchemaText
import FederationSplit.Proofs.CommandLine.Announcing
import FederationSplit.Proofs.CommandLine.Breaking
import FederationSplit.Proofs.CommandLine.Leaving
import FederationSplit.Proofs.Federation.Acceptance
import FederationSplit.Proofs.Federation.Additions
import FederationSplit.Proofs.Federation.Appending
import FederationSplit.Proofs.Federation.Assembling
import FederationSplit.Proofs.Federation.Carryovers
import FederationSplit.Proofs.Federation.Composing
import FederationSplit.Proofs.Federation.CompositionRules
import FederationSplit.Proofs.Federation.EntityUnion
import FederationSplit.Proofs.Federation.FieldSets
import FederationSplit.Proofs.Federation.GraphNames
import FederationSplit.Proofs.Federation.KeptKeys
import FederationSplit.Proofs.Federation.KeySelections
import FederationSplit.Proofs.Federation.Leftovers
import FederationSplit.Proofs.Federation.Loading
import FederationSplit.Proofs.Federation.MarkerSelections
import FederationSplit.Proofs.Federation.Markers
import FederationSplit.Proofs.Federation.Origins
import FederationSplit.Proofs.Federation.PassOrder
import FederationSplit.Proofs.Federation.PassRuns
import FederationSplit.Proofs.Federation.Pruning
import FederationSplit.Proofs.Federation.Refusals
import FederationSplit.Proofs.Federation.Reloading
import FederationSplit.Proofs.Federation.Repetitions
import FederationSplit.Proofs.Federation.Replacing
import FederationSplit.Proofs.Federation.Rereading
import FederationSplit.Proofs.Federation.Resplitting
import FederationSplit.Proofs.Federation.Rewriting
import FederationSplit.Proofs.Federation.RuntimeDeclarations
import FederationSplit.Proofs.Federation.Scaffold
import FederationSplit.Proofs.Federation.ScaffoldRules
import FederationSplit.Proofs.Federation.ServiceTypes
import FederationSplit.Proofs.Federation.Serving
import FederationSplit.Proofs.Federation.Splitting
import FederationSplit.Proofs.Federation.Stripping
import FederationSplit.Proofs.Federation.SubgraphRules
import FederationSplit.Proofs.Federation.SupergraphRules
import FederationSplit.Proofs.Files.Changing
import FederationSplit.Proofs.Files.Replacing
import FederationSplit.Proofs.Files.Standing
import FederationSplit.Proofs.Generation.Commenting
import FederationSplit.Proofs.Generation.Endings
import FederationSplit.Proofs.Generation.Regenerating
import FederationSplit.Proofs.Generation.Writing
import FederationSplit.Proofs.Output.SchemaFile
import FederationSplit.Proofs.Rules.Assembled
import FederationSplit.Proofs.Rules.Folded
import FederationSplit.Proofs.Rules.Narrowing
import FederationSplit.Proofs.Rules.Origins
import FederationSplit.Proofs.Rules.Parts
import FederationSplit.Proofs.Rules.Plain
import FederationSplit.Proofs.Rules.Unaffected
import FederationSplit.Proofs.Schema.Appending
import FederationSplit.Proofs.Schema.Continuing
import FederationSplit.Proofs.Schema.Extending
import FederationSplit.Proofs.Schema.Folding
import FederationSplit.Proofs.Schema.Gathering
import FederationSplit.Proofs.Schema.Merging
import FederationSplit.Proofs.Schema.Origins
import FederationSplit.Proofs.Schema.Regrouping
import FederationSplit.Proofs.Schema.Rereading
import FederationSplit.Proofs.Schema.TypeNames
import FederationSplit.Proofs.Schema.Usages
import FederationSplit.Proofs.Settings.Dumping
import FederationSplit.Proofs.Settings.Loading
import FederationSplit.Proofs.Syntax.Accepting
import FederationSplit.Proofs.Syntax.Bracing
import FederationSplit.Proofs.Syntax.Comments
import FederationSplit.Proofs.Syntax.Conforming
import FederationSplit.Proofs.Syntax.Names
import FederationSplit.Proofs.Syntax.Reading
import FederationSplit.Proofs.Syntax.Runs
import FederationSplit.Proofs.Syntax.SelectionGrammar
import FederationSplit.Proofs.Syntax.Shifting
import FederationSplit.Proofs.Text.EscapeSequences
import FederationSplit.Proofs.Text.Uppercase
import FederationSplit.Proofs.TypeSystem.Agreement
import FederationSplit.Proofs.TypeSystem.Carrying
import FederationSplit.Proofs.TypeSystem.Resolving
import FederationSplit.Proofs.TypeSystem.Soundness
import FederationSplit.Proofs.TypeSystem.Standalone
import FederationSplit.Rules.Builtin
import FederationSplit.Rules.Check
import FederationSplit.Rules.Repetition
import FederationSplit.Rules.Violation
import FederationSplit.Schema.Folding
import FederationSplit.Schema.SchemaDocument
import FederationSplit.Settings.Choice
import FederationSplit.Settings.Config
import FederationSplit.Syntax.BlockString
import FederationSplit.Syntax.Document
import FederationSplit.Syntax.Error
import FederationSplit.Syntax.Excerpt
import FederationSplit.Syntax.Lexer
import FederationSplit.Syntax.Parser
import FederationSplit.Syntax.Printer
import FederationSplit.Syntax.Token
import FederationSplit.Syntax.TokenStream
import FederationSplit.Text.Alphanumeric
import FederationSplit.Text.Blank
import FederationSplit.Text.CharSet
import FederationSplit.Text.CodePoint
import FederationSplit.Text.EditDistance
import FederationSplit.Text.EscapeSequence
import FederationSplit.Text.Lines
import FederationSplit.Text.NaturalOrder
import FederationSplit.Text.Printable
import FederationSplit.Text.Quoted
import FederationSplit.Text.Suggestion
import FederationSplit.Text.Uppercase
import FederationSplit.Text.Utf8
import FederationSplit.TypeSystem.Basic
import FederationSplit.TypeSystem.Building
import FederationSplit.TypeSystem.Resolution
import FederationSplit.TypeSystem.Validity
