import FederationSplit.Federation.FieldSet
import FederationSplit.TypeSystem.Basic

namespace FederationSplit.Federation

open FederationSplit.Syntax
open FederationSplit.TypeSystem

inductive SelectionProblem where
  | fragment
  | unknownField (field type : Name)
  | withArguments (type field : Name)
  | leafWithSelection (field type : Name)
  | unionField (type field : Name)
  | selectionMissing (field type : Name)
  deriving DecidableEq, Repr

def SelectionProblem.message : SelectionProblem → String
  | .fragment => "fragments cannot be used in a key"
  | .unknownField field type => s!"Cannot query field \"{field}\" on type \"{type}\"."
  | .withArguments type field =>
      s!"field \"{type}.{field}\" cannot be included because it has arguments."
  | .leafWithSelection field type =>
      s!"Field \"{field}\" must not have a selection since type \"{type}\" has no subfields."
  | .unionField type field =>
      s!"field \"{type}.{field}\" is a union type which is not allowed in a key."
  | .selectionMissing field type =>
      s!"Field \"{field}\" of type \"{type}\" must have a selection of subfields."

inductive KeyProblem where
  | malformed (error : FieldSetError)
  | selection (problem : SelectionProblem)
  deriving DecidableEq, Repr

def KeyProblem.message (type : Name) (fields : String) (problem : KeyProblem) : String :=
  s!"On type \"{type}\", for @key(fields: \"{fields}\"): " ++
    match problem with
    | .malformed error => error.message
    | .selection problem => problem.message

mutual

def selectionProblems (declarations : Declarations) (parent : TypeDefinition) :
    Selection → List SelectionProblem
  | .field _ name arguments _ selections =>
      match parent.body.fields.find? (·.name == name) with
      | none => [.unknownField name parent.name]
      | some field =>
          if !field.arguments.isEmpty || !arguments.isEmpty then
            [.withArguments parent.name name]
          else
            match declarations.type? field.type.baseName with
            | none => []
            | some type =>
                match type.kind with
                | .scalar | .enum =>
                    if selections.isEmpty then [] else [.leafWithSelection name type.name]
                | .union => [.unionField parent.name name]
                | .object | .interface | .inputObject =>
                    if selections.isEmpty then [.selectionMissing name type.name]
                    else selectionSetProblems declarations type selections
  | _ => [.fragment]

def selectionSetProblems (declarations : Declarations) (parent : TypeDefinition) :
    List Selection → List SelectionProblem
  | [] => []
  | selection :: rest =>
      selectionProblems declarations parent selection ++
        selectionSetProblems declarations parent rest

end

inductive KeyCheckError where
  | typeMissing (name : Name)
  deriving DecidableEq, Repr

def isField : Selection → Bool
  | .field .. => true
  | _ => false

/--
The problems of a field set as a key of a type. Without the type no field can be looked up, but what
is wrong on any type is still found.
-/
def keyProblems (declarations : Declarations) (type : Name) (fields : String) :
    Except KeyCheckError (List KeyProblem) :=
  match parseFieldSet fields with
  | .error error => pure [.malformed error]
  | .ok selections =>
      match (declarations.type? type).filter fun _ => declarations.hasType type with
      | some parent =>
          pure ((selectionSetProblems declarations parent selections).map .selection)
      | none =>
          if selections.any isField then throw (.typeMissing type)
          else pure (selections.map fun _ => .selection .fragment)

end FederationSplit.Federation
