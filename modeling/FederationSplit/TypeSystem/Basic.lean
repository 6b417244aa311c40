import FederationSplit.Rules.Builtin
import FederationSplit.Schema.Folding

namespace FederationSplit.TypeSystem

open FederationSplit.Syntax
open FederationSplit.Schema
open FederationSplit.Rules

structure Declarations where
  types : List TypeDefinition
  directives : List DirectiveDefinition
  rootTypes : RootTypes
  deriving Repr, Inhabited

namespace Declarations

/-- A type as it counts: the built-in one of its name, if there is one. -/
def effective (type : TypeDefinition) : TypeDefinition :=
  (findType? builtinTypes type.name).getD type

def effectiveTypes (declarations : Declarations) : List TypeDefinition :=
  declarations.types.map effective

def type? (declarations : Declarations) (name : Name) : Option TypeDefinition :=
  (findType? builtinTypes name).orElse fun _ => findType? declarations.types name

def kind? (declarations : Declarations) (name : Name) : Option TypeKind :=
  (declarations.type? name).map (·.kind)

def isInputType (declarations : Declarations) (type : TypeRef) : Bool :=
  match declarations.kind? type.baseName with
  | some .scalar | some .enum | some .inputObject => true
  | _ => false

def isOutputType (declarations : Declarations) (type : TypeRef) : Bool :=
  match declarations.kind? type.baseName with
  | some .inputObject | none => false
  | _ => true

def referencedNames (type : TypeDefinition) : List Name :=
  match type.body with
  | .object interfaces fields | .interface interfaces fields =>
      interfaces ++ fields.flatMap fun field =>
        field.type.baseName :: field.arguments.map (·.type.baseName)
  | .union members => members
  | .inputObject fields => fields.map (·.type.baseName)
  | .scalar | .enum _ => []

/-- Is a built-in type part of every schema? The others only are where they are referred to. -/
def isAlwaysPresent (name : Name) : Bool :=
  name == "String" || name == "Boolean" || introspectionTypes.any (·.name == name)

def hasType (declarations : Declarations) (name : Name) : Bool :=
  declarations.types.any (·.name == name) || isAlwaysPresent name ||
    (isBuiltinType name &&
      (declarations.rootTypes.names.contains name ||
        declarations.effectiveTypes.any (fun type => (referencedNames type).contains name) ||
        declarations.directives.any fun directive =>
          directive.arguments.any (·.type.baseName == name)))

end Declarations

structure InputSlot where
  name : Name
  type : TypeRef
  hasDefault : Bool
  isDeprecated : Bool
  deriving Repr, DecidableEq, Inhabited

def InputSlot.isRequired (slot : InputSlot) : Bool :=
  slot.type.isNonNull && !slot.hasDefault

structure FieldSlot where
  name : Name
  type : TypeRef
  arguments : List InputSlot
  deriving Repr, DecidableEq, Inhabited

inductive ResolvedBody where
  | scalar
  | object (interfaces : List Name) (fields : List FieldSlot)
  | interface (interfaces : List Name) (fields : List FieldSlot)
  | union (members : List Name)
  | enum (values : List Name)
  | inputObject (isOneOf : Bool) (fields : List InputSlot)
  deriving Repr, Inhabited

structure ResolvedType where
  name : Name
  body : ResolvedBody
  deriving Repr, Inhabited

structure ResolvedDirective where
  name : Name
  arguments : List InputSlot
  deriving Repr, Inhabited

structure ResolvedSchema where
  declarations : Declarations
  types : List ResolvedType
  directives : List ResolvedDirective
  deriving Repr, Inhabited

namespace ResolvedSchema

def type? (schema : ResolvedSchema) (name : Name) : Option ResolvedType :=
  schema.types.find? (·.name == name)

end ResolvedSchema

def ResolvedBody.interfaces : ResolvedBody → List Name
  | .object interfaces _ | .interface interfaces _ => interfaces
  | _ => []

def ResolvedBody.fields : ResolvedBody → List FieldSlot
  | .object _ fields | .interface _ fields => fields
  | _ => []

end FederationSplit.TypeSystem
