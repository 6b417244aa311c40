import FederationSplit.Syntax.Excerpt
import FederationSplit.TypeSystem.Basic

namespace FederationSplit.TypeSystem

open FederationSplit.Syntax

inductive FaultCause where
  | outputTypeExpected
  | argumentTypeExpected
  | inputFieldTypeExpected
  | unexpectedInputType (name : Name)
  | interfacesExpected (type : Name)
  | membersExpected (type : Name)
  | invalidArgument (name : Name) (value : Value) (origin : Option Nat)
  | nullArgument (name : Name) (type : TypeRef) (origin : Option Nat)
  | missingArgument (name : Name) (type : TypeRef) (origin : Option Nat)
  deriving DecidableEq, Repr

structure ResolutionFault where
  within : List Name
  cause : FaultCause
  deriving DecidableEq, Repr

def FaultCause.message : FaultCause → String
  | .outputTypeExpected => "Field type must be an output type."
  | .argumentTypeExpected => "Argument type must be a GraphQL input type."
  | .inputFieldTypeExpected => "Input field type must be a GraphQL input type."
  | .unexpectedInputType name => s!"Unexpected input type: {name}."
  | .interfacesExpected type =>
      s!"{type} interfaces must be specified as a collection of GraphQLInterfaceType instances."
  | .membersExpected type =>
      s!"{type} types must be specified as a collection of GraphQLObjectType instances."
  | .invalidArgument name value _ => s!"Argument '{name}' has invalid value {value.print}."
  | .nullArgument name type _ =>
      s!"Argument '{name}' of non-null type '{type.print}' must not be null."
  | .missingArgument name type _ =>
      s!"Argument '{name}' of required type '{type.print}' was not provided."

def FaultCause.origin? : FaultCause → Option Nat
  | .invalidArgument _ _ origin | .nullArgument _ _ origin | .missingArgument _ _ origin => origin
  | _ => none

def FaultCause.isAboutValue : FaultCause → Bool
  | .invalidArgument .. | .nullArgument .. | .missingArgument .. => true
  | _ => false

def ResolutionFault.report (source : String) (fault : ResolutionFault) : String :=
  let path := fault.within.map fun type => s!"{type} fields cannot be resolved. "
  let passage :=
    match fault.cause.origin? with
    | some origin => "\n\n" ++ excerpt source origin
    | none => ""
  String.join path ++ fault.cause.message ++ passage

/-- What a value is, read at some type: of no use there, null, or anything else. -/
inductive Coerced where
  | invalid
  | null
  | present
  deriving DecidableEq, Repr

abbrev FieldTable := List (Name × List (InputSlot × Coerced))

/-- A step of resolving. The input fields of a type are resolved only once. -/
abbrev Resolution (α : Type) := StateT FieldTable (Except ResolutionFault) α

def failWith (cause : FaultCause) : Resolution α :=
  throw { within := [], cause }

def withinFields (type : Name) (resolution : Resolution α) : Resolution α := fun table =>
  (resolution.run table).mapError fun fault => { fault with within := type :: fault.within }

def firstUsage? (name : Name) (usages : List DirectiveUsage) : Option DirectiveUsage :=
  usages.find? (·.name == name)

def resolveDeprecation (usages : List DirectiveUsage) : Resolution Bool :=
  match firstUsage? "deprecated" usages with
  | none => pure false
  | some usage =>
      match usage.argument? "reason" with
      | none => pure true
      | some argument =>
          match argument.value with
          | .string _ => pure true
          | .null => pure false
          | value => failWith (.invalidArgument "reason" value argument.origin)

def resolveSpecification (usages : List DirectiveUsage) : Resolution Unit :=
  match firstUsage? "specifiedBy" usages with
  | none => pure ()
  | some usage =>
      let type : TypeRef := .nonNull (.named "String")
      match usage.argument? "url" with
      | none => failWith (.missingArgument "url" type usage.origin)
      | some argument =>
          match argument.value with
          | .string _ => pure ()
          | .null => failWith (.nullArgument "url" type argument.origin)
          | value => failWith (.invalidArgument "url" value argument.origin)

/-! ### Default values -/

structure InputField where
  name : Name
  type : TypeRef
  default : Coerced

def nullableType : TypeRef → TypeRef
  | .nonNull item => nullableType item
  | type => type

def isInt32 (digits : String) : Bool :=
  match digits.toInt? with
  | some value => -2147483648 ≤ value && value ≤ 2147483647
  | none => false

def fitsScalar (name : Name) (value : Value) : Bool :=
  match name, value with
  | "String", .string _ => true
  | "Boolean", .boolean _ => true
  | "Int", .int digits => isInt32 digits
  | "Float", .int _ => true
  | "Float", .float _ => true
  | "ID", .string _ => true
  | "ID", .int _ => true
  | "String", _ | "Boolean", _ | "Int", _ | "Float", _ | "ID", _ => false
  | _, _ => true

def enumContains (type : TypeDefinition) (name : Name) : Bool :=
  match type.body with
  | .enum values => values.any (·.name == name)
  | _ => false

def coercePlain (declarations : Declarations) (name : Name) (value : Value) : Resolution Coerced :=
  match declarations.type? name with
  | none => failWith (.unexpectedInputType name)
  | some type =>
      match type.kind with
      | .scalar => pure (if fitsScalar name value then .present else .invalid)
      | .enum =>
          match value with
          | .enum word => pure (if enumContains type word then .present else .invalid)
          | _ => pure .invalid
      | .inputObject => pure .invalid
      | .object | .interface | .union => failWith (.unexpectedInputType name)

def isOneOf (type : TypeDefinition) : Bool :=
  type.directives.any (·.name == "oneOf")

def coerceObjectFields (coercers : List (Name × (TypeRef → Resolution Coerced))) :
    List InputField → Resolution (Option (List Coerced))
  | [] => pure (some [])
  | field :: rest =>
      match coercers.reverse.lookup field.name with
      | some coercer => do
          match ← coercer field.type with
          | .invalid => pure none
          | state => pure ((← coerceObjectFields coercers rest).map (state :: ·))
      | none =>
          match field.default with
          | .invalid =>
              if field.type.isNonNull then pure none else coerceObjectFields coercers rest
          | state => do pure ((← coerceObjectFields coercers rest).map (state :: ·))

def coerceObject (declarations : Declarations)
    (inputFields : TypeDefinition → Resolution (List InputField))
    (coercers : List (Name × (TypeRef → Resolution Coerced))) (value : Value) (name : Name) :
    Resolution Coerced :=
  match declarations.type? name with
  | some type =>
      if type.kind = .inputObject then do
        match ← coerceObjectFields coercers (← inputFields type) with
        | none => pure .invalid
        | some states =>
            pure (if isOneOf type && states != [.present] then .invalid else .present)
      else coercePlain declarations name value
  | none => coercePlain declarations name value

def coerceItems (item : TypeRef) : List (TypeRef → Resolution Coerced) → Resolution Coerced
  | [] => pure .present
  | coercer :: rest => do
      match ← coercer item with
      | .invalid => pure .invalid
      | _ => coerceItems item rest

mutual

/-- Reads a value at a type. An item may stand for a list of itself. -/
def coerce (declarations : Declarations)
    (inputFields : TypeDefinition → Resolution (List InputField)) :
    Value → TypeRef → Resolution Coerced
  | .null, type => pure (if type.isNonNull then .invalid else .null)
  | .list items, type =>
      match nullableType type with
      | .list item => coerceItems item (coercersOf declarations inputFields items)
      | type => coercePlain declarations type.baseName (.list items)
  | .object fields, type =>
      coerceObject declarations inputFields (fieldCoercersOf declarations inputFields fields)
        (.object fields) type.baseName
  | value, type => coercePlain declarations type.baseName value

def coercersOf (declarations : Declarations)
    (inputFields : TypeDefinition → Resolution (List InputField)) :
    List Value → List (TypeRef → Resolution Coerced)
  | [] => []
  | value :: rest =>
      coerce declarations inputFields value :: coercersOf declarations inputFields rest

def fieldCoercersOf (declarations : Declarations)
    (inputFields : TypeDefinition → Resolution (List InputField)) :
    List (Name × Value) → List (Name × (TypeRef → Resolution Coerced))
  | [] => []
  | (name, value) :: rest =>
      (name, coerce declarations inputFields value) ::
        fieldCoercersOf declarations inputFields rest

end

/-! ### Members of types -/

def resolveInputSlot (declarations : Declarations)
    (inputFields : TypeDefinition → Resolution (List InputField)) (cause : FaultCause)
    (definition : InputValueDefinition) : Resolution (InputSlot × Coerced) := do
  let default ←
    match definition.defaultValue with
    | none => pure Coerced.invalid
    | some value => coerce declarations inputFields value definition.type
  let isDeprecated ← resolveDeprecation definition.directives
  unless declarations.isInputType definition.type do
    failWith cause
  pure
    ({ name := definition.name, type := definition.type, hasDefault := default != .invalid,
        isDeprecated },
      default)

def remembering (type : Name) (resolution : Resolution (List (InputSlot × Coerced))) :
    Resolution (List (InputSlot × Coerced)) := do
  match (← get).lookup type with
  | some slots => pure slots
  | none =>
      modify ((type, []) :: ·)
      let slots ← resolution
      modify ((type, slots) :: ·)
      pure slots

/--
The input fields of a type, inside of default values. The depth bounds how many types may be
entered by default values one inside another.
-/
def inputFieldsWithin (declarations : Declarations) :
    Nat → TypeDefinition → Resolution (List (InputSlot × Coerced))
  | 0, _ => pure []
  | depth + 1, type =>
      match type.body with
      | .inputObject fields =>
          let inner (type : TypeDefinition) : Resolution (List InputField) := do
            let slots ← inputFieldsWithin declarations depth type
            pure (slots.map fun (slot, default) =>
              { name := slot.name, type := slot.type, default })
          remembering type.name (withinFields type.name (fields.mapM
            (resolveInputSlot declarations inner .inputFieldTypeExpected)))
      | _ => pure []

def inputFieldsOf (declarations : Declarations) (type : TypeDefinition) :
    Resolution (List InputField) := do
  let slots ← inputFieldsWithin declarations (declarations.types.length + 1) type
  pure (slots.map fun (slot, default) => { name := slot.name, type := slot.type, default })

def resolveArguments (declarations : Declarations) (arguments : List InputValueDefinition) :
    Resolution (List InputSlot) :=
  arguments.mapM fun argument => do
    let (slot, _) ← resolveInputSlot declarations (inputFieldsOf declarations)
      .argumentTypeExpected argument
    pure slot

def resolveField (declarations : Declarations) (field : FieldDefinition) :
    Resolution FieldSlot := do
  let arguments ← resolveArguments declarations field.arguments
  let _ ← resolveDeprecation field.directives
  unless declarations.isOutputType field.type do
    failWith .outputTypeExpected
  pure { name := field.name, type := field.type, arguments }

def resolveInterfaces (declarations : Declarations) (type : Name) (interfaces : List Name) :
    Resolution Unit :=
  if interfaces.all fun name => declarations.kind? name = some .interface then pure ()
  else failWith (.interfacesExpected type)

def resolveMembers (declarations : Declarations) (type : Name) (members : List Name) :
    Resolution Unit :=
  if members.all fun name => declarations.kind? name = some .object then pure ()
  else failWith (.membersExpected type)

def resolveBody (declarations : Declarations) (type : TypeDefinition) : Resolution ResolvedBody :=
  match type.body with
  | .scalar => pure .scalar
  | .object interfaces fields => do
      resolveInterfaces declarations type.name interfaces
      let slots ← withinFields type.name (fields.mapM (resolveField declarations))
      pure (.object interfaces slots)
  | .interface interfaces fields => do
      resolveInterfaces declarations type.name interfaces
      let slots ← withinFields type.name (fields.mapM (resolveField declarations))
      pure (.interface interfaces slots)
  | .union members => do
      resolveMembers declarations type.name members
      pure (.union members)
  | .enum values => pure (.enum (values.map (·.name)))
  | .inputObject _ => do
      let slots ← inputFieldsWithin declarations (declarations.types.length + 1) type
      pure (.inputObject (isOneOf type) (slots.map (·.1)))

def resolveType (declarations : Declarations) (type : TypeDefinition) :
    Resolution ResolvedType := do
  pure { name := type.name, body := ← resolveBody declarations type }

def resolveDirective (declarations : Declarations) (directive : DirectiveDefinition) :
    Resolution ResolvedDirective := do
  pure {
    name := directive.name
    arguments := ← resolveArguments declarations directive.arguments
  }

def resolveShell (type : TypeDefinition) : Resolution Unit :=
  match type.body with
  | .scalar => resolveSpecification type.directives
  | .enum values => values.forM fun value => do
      let _ ← resolveDeprecation value.directives
  | _ => pure ()

def resolveAll (declarations : Declarations) : Resolution ResolvedSchema := do
  declarations.effectiveTypes.forM resolveShell
  let directives ← declarations.directives.mapM (resolveDirective declarations)
  let types ← declarations.effectiveTypes.mapM (resolveType declarations)
  pure { declarations, types, directives }

/--
Resolves all references between declarations, up to the first fault. Scalars and enumerations come
first, then the arguments of directives, then the members of types.
-/
def resolve (declarations : Declarations) : Except ResolutionFault ResolvedSchema :=
  (resolveAll declarations).run' []

end FederationSplit.TypeSystem
