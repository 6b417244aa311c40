namespace FederationSplit.Syntax

abbrev Name := String

structure StringLiteral where
  text : String
  isBlock : Bool
  deriving DecidableEq, Repr, Inhabited

inductive Value where
  | variable (name : Name)
  | int (digits : String)
  | float (digits : String)
  | string (literal : StringLiteral)
  | boolean (value : Bool)
  | null
  | enum (name : Name)
  | list (items : List Value)
  | object (fields : List (Name × Value))
  deriving Repr, Inhabited

mutual

def Value.decEq (left right : Value) : Decidable (left = right) :=
  if kind : left.ctorIdx = right.ctorIdx then
    match left, right, kind with
    | .variable left, .variable right, _ | .enum left, .enum right, _ |
      .int left, .int right, _ | .float left, .float right, _ =>
        decidable_of_iff (left = right) (by simp)
    | .string left, .string right, _ => decidable_of_iff (left = right) (by simp)
    | .boolean left, .boolean right, _ => decidable_of_iff (left = right) (by simp)
    | .null, .null, _ => isTrue rfl
    | .list left, .list right, _ =>
        have := Value.decEqAll left right
        decidable_of_iff (left = right) (by simp)
    | .object left, .object right, _ =>
        have := Value.decEqFields left right
        decidable_of_iff (left = right) (by simp)
  else isFalse fun same => kind (congrArg Value.ctorIdx same)

def Value.decEqAll (left right : List Value) : Decidable (left = right) :=
  match left, right with
  | [], [] => isTrue rfl
  | [], _ :: _ | _ :: _, [] => isFalse nofun
  | left :: leftRest, right :: rightRest =>
      have := left.decEq right
      have := Value.decEqAll leftRest rightRest
      decidable_of_iff (left = right ∧ leftRest = rightRest) (by simp)

def Value.decEqFields (left right : List (Name × Value)) : Decidable (left = right) :=
  match left, right with
  | [], [] => isTrue rfl
  | [], _ :: _ | _ :: _, [] => isFalse nofun
  | (leftName, left) :: leftRest, (rightName, right) :: rightRest =>
      have := left.decEq right
      have := Value.decEqFields leftRest rightRest
      decidable_of_iff (leftName = rightName ∧ left = right ∧ leftRest = rightRest)
        (by simp [and_assoc])

end

instance : DecidableEq Value := Value.decEq

structure Argument where
  name : Name
  value : Value
  /-- Where the value starts in the text it was read from. -/
  origin : Option Nat
  deriving DecidableEq, Repr, Inhabited

structure DirectiveUsage where
  name : Name
  arguments : List Argument
  origin : Option Nat
  deriving DecidableEq, Repr, Inhabited

inductive TypeRef where
  | named (name : Name)
  | list (item : TypeRef)
  | nonNull (item : TypeRef)
  deriving DecidableEq, Repr, Inhabited

structure InputValueDefinition where
  description : Option StringLiteral
  name : Name
  type : TypeRef
  defaultValue : Option Value
  directives : List DirectiveUsage
  deriving DecidableEq, Repr, Inhabited

structure FieldDefinition where
  description : Option StringLiteral
  name : Name
  arguments : List InputValueDefinition
  type : TypeRef
  directives : List DirectiveUsage
  deriving DecidableEq, Repr, Inhabited

structure EnumValueDefinition where
  description : Option StringLiteral
  name : Name
  directives : List DirectiveUsage
  deriving DecidableEq, Repr, Inhabited

inductive TypeKind where
  | scalar
  | object
  | interface
  | union
  | enum
  | inputObject
  deriving DecidableEq, Repr, Inhabited

inductive TypeBody where
  | scalar
  | object (interfaces : List Name) (fields : List FieldDefinition)
  | interface (interfaces : List Name) (fields : List FieldDefinition)
  | union (members : List Name)
  | enum (values : List EnumValueDefinition)
  | inputObject (fields : List InputValueDefinition)
  deriving DecidableEq, Repr, Inhabited

def TypeBody.kind : TypeBody → TypeKind
  | .scalar => .scalar
  | .object .. => .object
  | .interface .. => .interface
  | .union .. => .union
  | .enum .. => .enum
  | .inputObject .. => .inputObject

def TypeBody.interfaces : TypeBody → List Name
  | .object interfaces _ | .interface interfaces _ => interfaces
  | _ => []

def TypeBody.fields : TypeBody → List FieldDefinition
  | .object _ fields | .interface _ fields => fields
  | _ => []

structure TypeDefinition where
  description : Option StringLiteral
  name : Name
  directives : List DirectiveUsage
  body : TypeBody
  deriving DecidableEq, Repr, Inhabited

def TypeDefinition.kind (definition : TypeDefinition) : TypeKind := definition.body.kind

structure TypeExtension where
  name : Name
  directives : List DirectiveUsage
  body : TypeBody
  deriving DecidableEq, Repr, Inhabited

inductive DirectiveLocation where
  | query
  | mutation
  | subscription
  | field
  | fragmentDefinition
  | fragmentSpread
  | inlineFragment
  | variableDefinition
  | schema
  | scalar
  | object
  | fieldDefinition
  | argumentDefinition
  | interface
  | union
  | enum
  | enumValue
  | inputObject
  | inputFieldDefinition
  | directiveDefinition
  deriving DecidableEq, Repr, Inhabited

structure DirectiveDefinition where
  description : Option StringLiteral
  name : Name
  arguments : List InputValueDefinition
  isRepeatable : Bool
  locations : List DirectiveLocation
  deriving DecidableEq, Repr, Inhabited

inductive OperationType where
  | query
  | mutation
  | subscription
  deriving DecidableEq, Repr, Inhabited

structure SchemaDefinition where
  description : Option StringLiteral
  directives : List DirectiveUsage
  operationTypes : List (OperationType × Name)
  deriving DecidableEq, Repr, Inhabited

/-- A selection. A field without a selection set has no subselections. -/
inductive Selection where
  | field (responseName : Option Name) (name : Name) (arguments : List Argument)
      (directives : List DirectiveUsage) (selections : List Selection)
  | fragmentSpread (name : Name) (directives : List DirectiveUsage)
  | inlineFragment (typeCondition : Option Name) (directives : List DirectiveUsage)
      (selections : List Selection)
  deriving Repr, Inhabited

mutual

def Selection.decEq (left right : Selection) : Decidable (left = right) :=
  if kind : left.ctorIdx = right.ctorIdx then
    match left, right, kind with
    | .field leftAlias leftName leftArguments leftUsages left,
        .field rightAlias rightName rightArguments rightUsages right, _ =>
        have := Selection.decEqAll left right
        decidable_of_iff
          (leftAlias = rightAlias ∧ leftName = rightName ∧ leftArguments = rightArguments ∧
            leftUsages = rightUsages ∧ left = right)
          (by simp)
    | .fragmentSpread leftName leftUsages, .fragmentSpread rightName rightUsages, _ =>
        decidable_of_iff (leftName = rightName ∧ leftUsages = rightUsages) (by simp)
    | .inlineFragment leftType leftUsages left, .inlineFragment rightType rightUsages right, _ =>
        have := Selection.decEqAll left right
        decidable_of_iff (leftType = rightType ∧ leftUsages = rightUsages ∧ left = right) (by simp)
  else isFalse fun same => kind (congrArg Selection.ctorIdx same)

def Selection.decEqAll (left right : List Selection) : Decidable (left = right) :=
  match left, right with
  | [], [] => isTrue rfl
  | [], _ :: _ | _ :: _, [] => isFalse nofun
  | left :: leftRest, right :: rightRest =>
      have := left.decEq right
      have := Selection.decEqAll leftRest rightRest
      decidable_of_iff (left = right ∧ leftRest = rightRest) (by simp)

end

instance : DecidableEq Selection := Selection.decEq

structure VariableDefinition where
  name : Name
  type : TypeRef
  defaultValue : Option Value
  directives : List DirectiveUsage
  deriving DecidableEq, Repr, Inhabited

structure OperationDefinition where
  type : OperationType
  name : Option Name
  variableDefinitions : List VariableDefinition
  directives : List DirectiveUsage
  selections : List Selection
  deriving DecidableEq, Repr, Inhabited

structure FragmentDefinition where
  name : Name
  typeCondition : Name
  directives : List DirectiveUsage
  selections : List Selection
  deriving DecidableEq, Repr, Inhabited

inductive Definition where
  | operation (definition : OperationDefinition)
  | fragment (definition : FragmentDefinition)
  | schema (definition : SchemaDefinition)
  | schemaExtension (extension : SchemaDefinition)
  | type (definition : TypeDefinition)
  | typeExtension (extension : TypeExtension)
  | directive (definition : DirectiveDefinition)
  deriving DecidableEq, Repr, Inhabited

structure Document where
  definitions : List Definition
  deriving DecidableEq, Repr, Inhabited

def OperationType.keyword : OperationType → String
  | .query => "query"
  | .mutation => "mutation"
  | .subscription => "subscription"

def OperationType.ofKeyword? : String → Option OperationType
  | "query" => some .query
  | "mutation" => some .mutation
  | "subscription" => some .subscription
  | _ => none

def DirectiveLocation.keyword : DirectiveLocation → String
  | .query => "QUERY"
  | .mutation => "MUTATION"
  | .subscription => "SUBSCRIPTION"
  | .field => "FIELD"
  | .fragmentDefinition => "FRAGMENT_DEFINITION"
  | .fragmentSpread => "FRAGMENT_SPREAD"
  | .inlineFragment => "INLINE_FRAGMENT"
  | .variableDefinition => "VARIABLE_DEFINITION"
  | .schema => "SCHEMA"
  | .scalar => "SCALAR"
  | .object => "OBJECT"
  | .fieldDefinition => "FIELD_DEFINITION"
  | .argumentDefinition => "ARGUMENT_DEFINITION"
  | .interface => "INTERFACE"
  | .union => "UNION"
  | .enum => "ENUM"
  | .enumValue => "ENUM_VALUE"
  | .inputObject => "INPUT_OBJECT"
  | .inputFieldDefinition => "INPUT_FIELD_DEFINITION"
  | .directiveDefinition => "DIRECTIVE_DEFINITION"

def DirectiveLocation.ofKeyword? (keyword : String) : Option DirectiveLocation :=
  [query, mutation, subscription, field, fragmentDefinition, fragmentSpread, inlineFragment,
    variableDefinition, schema, scalar, object, fieldDefinition, argumentDefinition, interface,
    union, enum, enumValue, inputObject, inputFieldDefinition, directiveDefinition].find?
    (·.keyword == keyword)

def TypeKind.location : TypeKind → DirectiveLocation
  | .scalar => .scalar
  | .object => .object
  | .interface => .interface
  | .union => .union
  | .enum => .enum
  | .inputObject => .inputObject

def TypeKind.keyword : TypeKind → String
  | .scalar => "scalar"
  | .object => "type"
  | .interface => "interface"
  | .union => "union"
  | .enum => "enum"
  | .inputObject => "input"

def TypeKind.label : TypeKind → String
  | .scalar => "scalar"
  | .object => "object"
  | .interface => "interface"
  | .union => "union"
  | .enum => "enum"
  | .inputObject => "input object"

def TypeRef.baseName : TypeRef → Name
  | .named name => name
  | .list item | .nonNull item => item.baseName

def TypeRef.isNonNull : TypeRef → Bool
  | .nonNull _ => true
  | _ => false

end FederationSplit.Syntax
