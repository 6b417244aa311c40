import FederationSplit.Rules.Repetition
import FederationSplit.TypeSystem.Resolution

namespace FederationSplit.TypeSystem

open FederationSplit.Syntax
open FederationSplit.Schema
open FederationSplit.Rules

inductive InputOwner where
  | directiveArgument (directive : Name)
  | fieldArgument (type field : Name)
  | inputField (type : Name)
  deriving DecidableEq, Repr

inductive SchemaProblem where
  | queryRootMissing
  | rootNotObject (operation : OperationType) (type : Name)
  | reservedName (name : Name)
  | deprecatedRequired (owner : InputOwner) (name : Name)
  | noFields (type : Name)
  | noMembers (type : Name)
  | noValues (type : Name)
  | noInputFields (type : Name)
  | implementsItself (type : Name)
  | implementsTwice (type interface : Name)
  | circularInterface (type interface : Name)
  | missingAncestor (type ancestor interface : Name)
  | missingField (interface field type : Name)
  | fieldTypeMismatch (interface field : Name) (expected : TypeRef) (type : Name) (found : TypeRef)
  | missingArgument (interface field argument type : Name)
  | argumentTypeMismatch (interface field argument : Name) (expected : TypeRef) (type : Name)
      (found : TypeRef)
  | extraRequiredArgument (type field argument interface : Name)
  | repeatedMember (union member : Name)
  | oneOfRequired (type field : Name)
  | oneOfDefault (type field : Name)
  | inputCycle (type : Name) (path : List Name)
  deriving DecidableEq, Repr

def capitalizedKeyword : OperationType → String
  | .query => "Query"
  | .mutation => "Mutation"
  | .subscription => "Subscription"

def InputOwner.describe (owner : InputOwner) (name : Name) : String :=
  match owner with
  | .directiveArgument directive => s!"argument @{directive}({name}:)"
  | .fieldArgument type field => s!"argument {type}.{field}({name}:)"
  | .inputField type => s!"input field {type}.{name}"

def SchemaProblem.message : SchemaProblem → String
  | .queryRootMissing => "Query root type must be provided."
  | .rootNotObject operation type =>
      let condition := if operation = .query then "" else " if provided"
      s!"{capitalizedKeyword operation} root type must be Object type{condition}, " ++
        s!"it cannot be {type}."
  | .reservedName name =>
      s!"Name '{name}' must not begin with '__', which is reserved by GraphQL introspection."
  | .deprecatedRequired owner name =>
      s!"Required {owner.describe name} cannot be deprecated."
  | .noFields type => s!"Type {type} must define one or more fields."
  | .noMembers type => s!"Union type {type} must define one or more member types."
  | .noValues type => s!"Enum type {type} must define one or more values."
  | .noInputFields type => s!"Input Object type {type} must define one or more fields."
  | .implementsItself type =>
      s!"Type {type} cannot implement itself because it would create a circular reference."
  | .implementsTwice type interface => s!"Type {type} can only implement {interface} once."
  | .circularInterface type interface =>
      s!"Type {type} cannot implement {interface} because it would create a circular reference."
  | .missingAncestor type ancestor interface =>
      s!"Type {type} must implement {ancestor} because it is implemented by {interface}."
  | .missingField interface field type =>
      s!"Interface field {interface}.{field} expected but {type} does not provide it."
  | .fieldTypeMismatch interface field expected type found =>
      s!"Interface field {interface}.{field} expects type {expected.print} " ++
        s!"but {type}.{field} is type {found.print}."
  | .missingArgument interface field argument type =>
      s!"Interface field argument {interface}.{field}({argument}:) expected " ++
        s!"but {type}.{field} does not provide it."
  | .argumentTypeMismatch interface field argument expected type found =>
      s!"Interface field argument {interface}.{field}({argument}:) expects type " ++
        s!"{expected.print} but {type}.{field}({argument}:) is type {found.print}."
  | .extraRequiredArgument type field argument interface =>
      s!"Object field {type}.{field} includes required argument {argument} " ++
        s!"that is missing from the Interface field {interface}.{field}."
  | .repeatedMember union member => s!"Union type {union} can only include type {member} once."
  | .oneOfRequired type field => s!"OneOf input field {type}.{field} must be nullable."
  | .oneOfDefault type field =>
      s!"OneOf input field {type}.{field} cannot have a default value."
  | .inputCycle type path =>
      let fields := ".".intercalate path
      s!"Cannot reference Input Object '{type}' within itself " ++
        s!"through a series of non-null fields: '{fields}'."

def checkName (name : Name) : List SchemaProblem :=
  if "__".toList.isPrefixOf name.toList then [.reservedName name] else []

/-- A parameter or input field that must be given cannot be deprecated. -/
def checkSlot (owner : InputOwner) (slot : InputSlot) : List SchemaProblem :=
  checkName slot.name ++
    if slot.isRequired && slot.isDeprecated then [.deprecatedRequired owner slot.name] else []

def checkRoot (declarations : Declarations) (operation : OperationType) (name : Name) :
    List SchemaProblem :=
  if declarations.kind? name = some .object then [] else [.rootNotObject operation name]

def checkRoots (declarations : Declarations) : List SchemaProblem :=
  let roots := declarations.rootTypes
  (match roots.query with
    | none => [.queryRootMissing]
    | some name => checkRoot declarations .query name) ++
    roots.mutation.toList.flatMap (checkRoot declarations .mutation) ++
    roots.subscription.toList.flatMap (checkRoot declarations .subscription)

def checkDirective (directive : ResolvedDirective) : List SchemaProblem :=
  checkName directive.name ++
    directive.arguments.flatMap (checkSlot (.directiveArgument directive.name))

def checkFieldSlot (type : Name) (field : FieldSlot) : List SchemaProblem :=
  checkName field.name ++ field.arguments.flatMap (checkSlot (.fieldArgument type field.name))

def checkFieldSlots (type : Name) (fields : List FieldSlot) : List SchemaProblem :=
  (if fields.isEmpty then [.noFields type] else []) ++ fields.flatMap (checkFieldSlot type)

def isSubtypeName (schema : ResolvedSchema) (name super : Name) : Bool :=
  name == super ||
    match (schema.type? super).map ResolvedType.body with
    | some (.union members) => members.contains name
    | some (.interface ..) =>
        (schema.type? name).any fun type => type.body.interfaces.contains super
    | _ => false

def isSubtype (schema : ResolvedSchema) : TypeRef → TypeRef → Bool
  | .nonNull item, .nonNull super => isSubtype schema item super
  | .nonNull item, super => isSubtype schema item super
  | _, .nonNull _ => false
  | .list item, .list super => isSubtype schema item super
  | .named name, .named super => isSubtypeName schema name super
  | _, _ => false

def checkAncestors (schema : ResolvedSchema) (type : ResolvedType) (interface : Name) :
    List SchemaProblem :=
  let ancestors := ((schema.type? interface).map (·.body.interfaces)).getD []
  (ancestors.filter (!type.body.interfaces.contains ·)).map fun ancestor =>
    if ancestor = type.name then .circularInterface type.name interface
    else .missingAncestor type.name ancestor interface

def checkImplementedArgument (type interface : Name) (field expected : FieldSlot)
    (slot : InputSlot) : List SchemaProblem :=
  match field.arguments.find? (·.name == slot.name) with
  | none => [.missingArgument interface expected.name slot.name type]
  | some found =>
      if found.type = slot.type then []
      else [.argumentTypeMismatch interface expected.name slot.name slot.type type found.type]

def checkImplementedField (schema : ResolvedSchema) (type : ResolvedType) (interface : Name)
    (expected : FieldSlot) : List SchemaProblem :=
  match type.body.fields.find? (·.name == expected.name) with
  | none => [.missingField interface expected.name type.name]
  | some field =>
      (if isSubtype schema field.type expected.type then []
        else
          [.fieldTypeMismatch interface expected.name expected.type type.name field.type]) ++
        expected.arguments.flatMap
          (checkImplementedArgument type.name interface field expected) ++
        (field.arguments.filter fun slot =>
          slot.isRequired && !expected.arguments.any (·.name == slot.name)).map fun slot =>
            .extraRequiredArgument type.name field.name slot.name interface

def checkInterface (schema : ResolvedSchema) (type : ResolvedType) (interface : Name) :
    List SchemaProblem :=
  checkAncestors schema type interface ++
    (((schema.type? interface).map (·.body.fields)).getD []).flatMap
      (checkImplementedField schema type interface)

def checkInterfaces (schema : ResolvedSchema) (type : ResolvedType) (seen : List Name) :
    List Name → List SchemaProblem
  | [] => []
  | interface :: rest =>
      (if interface = type.name then [.implementsItself type.name] else []) ++
        if seen.contains interface then
          .implementsTwice type.name interface :: checkInterfaces schema type seen rest
        else
          checkInterface schema type interface ++
            checkInterfaces schema type (interface :: seen) rest

def checkUnion (type : Name) (members : List Name) : List SchemaProblem :=
  (if members.isEmpty then [.noMembers type] else []) ++
    (repeatsAfter [] members).map (.repeatedMember type)

def checkEnum (type : Name) (values : List Name) : List SchemaProblem :=
  (if values.isEmpty then [.noValues type] else []) ++ values.flatMap checkName

def checkInputField (type : Name) (isOneOf : Bool) (slot : InputSlot) : List SchemaProblem :=
  checkSlot (.inputField type) slot ++
    (if isOneOf && slot.type.isNonNull then [.oneOfRequired type slot.name] else []) ++
    if isOneOf && slot.hasDefault then [.oneOfDefault type slot.name] else []

def checkInputFields (type : Name) (isOneOf : Bool) (fields : List InputSlot) :
    List SchemaProblem :=
  (if fields.isEmpty then [.noInputFields type] else []) ++
    fields.flatMap (checkInputField type isOneOf)

/-! ### Cycles of input objects -/

/-- The input object that a field holds by necessity: one that is not null and not in a list. -/
def necessaryInput? (schema : ResolvedSchema) (slot : InputSlot) : Option ResolvedType :=
  match slot.type with
  | .nonNull (.named name) =>
      (schema.type? name).filter fun type =>
        match type.body with
        | .inputObject .. => true
        | _ => false
  | _ => none

structure PathStep where
  type : Name
  field : Name

def pathFrom (type : Name) (path : List PathStep) : List Name :=
  (path.dropWhile (·.type != type)).map (·.field)

def inputSlots : ResolvedBody → List InputSlot
  | .inputObject _ fields => fields
  | _ => []

/--
Follows the necessary fields of an input object along a path, and gives the cycles it closes with
the types visited. The depth bounds the length of the path.
-/
def followInputs (schema : ResolvedSchema) :
    Nat → List PathStep → List Name → ResolvedType → List SchemaProblem × List Name
  | 0, _, visited, _ => ([], visited)
  | depth + 1, path, visited, type =>
      if visited.contains type.name then ([], visited)
      else
        (inputSlots type.body).foldl
          (fun (problems, visited) slot =>
            match necessaryInput? schema slot with
            | none => (problems, visited)
            | some target =>
                let extended := path ++ [{ type := type.name, field := slot.name }]
                if extended.any (·.type == target.name) then
                  (problems ++ [.inputCycle target.name (pathFrom target.name extended)], visited)
                else
                  let (found, visited) := followInputs schema depth extended visited target
                  (problems ++ found, visited))
          ([], type.name :: visited)

def checkType (schema : ResolvedSchema) (visited : List Name) (type : ResolvedType) :
    List SchemaProblem × List Name :=
  let naming := if introspectionTypes.any (·.name == type.name) then [] else checkName type.name
  match type.body with
  | .scalar => (naming, visited)
  | .object interfaces fields | .interface interfaces fields =>
      (naming ++ checkFieldSlots type.name fields ++ checkInterfaces schema type [] interfaces,
        visited)
  | .union members => (naming ++ checkUnion type.name members, visited)
  | .enum values => (naming ++ checkEnum type.name values, visited)
  | .inputObject isOneOf fields =>
      let (cycles, visited) := followInputs schema (schema.types.length + 1) [] visited type
      (naming ++ checkInputFields type.name isOneOf fields ++ cycles, visited)

def checkTypes (schema : ResolvedSchema) (visited : List Name) :
    List ResolvedType → List SchemaProblem
  | [] => []
  | type :: rest =>
      let (problems, visited) := checkType schema visited type
      problems ++ checkTypes schema visited rest

def schemaProblems (schema : ResolvedSchema) : List SchemaProblem :=
  checkRoots schema.declarations ++ schema.directives.flatMap checkDirective ++
    checkTypes schema [] schema.types

end FederationSplit.TypeSystem
