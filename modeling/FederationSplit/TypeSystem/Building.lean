import FederationSplit.Rules.Check
import FederationSplit.TypeSystem.Resolution

namespace FederationSplit.TypeSystem

open FederationSplit.Syntax
open FederationSplit.Schema
open FederationSplit.Rules

/-- Extensions of types count for their members, but not for what a type says about itself. -/
def withoutExtensionUsages (document : Document) : Document where
  definitions := document.definitions.map fun
    | .typeExtension extension => .typeExtension { extension with directives := [] }
    | definition => definition

/--
The root types of a document. Without a schema definition a type of a conventional name goes before
one that an extension of the schema states.
-/
def documentRoots (document : Document) (definitions : Definitions) : RootTypes :=
  if document.definitions.any isSchemaDefinition then definitions.rootTypes
  else
    let root (operation : OperationType) : Option Name :=
      let name := RootTypes.conventionalName operation
      if (findType? definitions.types name).isSome then some name
      else definitions.operationTypes.lookup operation
    { query := root .query, mutation := root .mutation, subscription := root .subscription }

def Declarations.ofDocument (document : Document) : Declarations :=
  let definitions := fold (withoutExtensionUsages document)
  { types := definitions.types, directives := definitions.directives
    rootTypes := documentRoots document definitions }

inductive BuildError where
  | rules (violations : List Violation)
  | unordered (number : Text.OversizedNumber)
  | resolution (fault : ResolutionFault)

def build (document : Document) : Except BuildError Declarations := do
  match ← (check document).mapError .unordered with
  | [] => pure ()
  | found => throw (.rules found)
  let declarations := Declarations.ofDocument document
  let _ ← (resolve declarations).mapError .resolution
  pure declarations

end FederationSplit.TypeSystem
