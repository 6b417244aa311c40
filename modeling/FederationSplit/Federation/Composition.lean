import FederationSplit.Federation.GraphName
import FederationSplit.Federation.KeyFields
import FederationSplit.Rules.Check
import FederationSplit.TypeSystem.Validity

namespace FederationSplit.Federation

open FederationSplit.Syntax
open FederationSplit.Schema
open FederationSplit.Rules
open FederationSplit.TypeSystem

def withoutFederationFields (type : TypeDefinition) : TypeDefinition :=
  match type.body with
  | .object interfaces fields =>
      let kept := fields.filter (!federationQueryFields.contains ·.name)
      { type with body := .object interfaces kept }
  | _ => type

def dropFederationDeclarations (definitions : Definitions) : Definitions :=
  let kept := { definitions with
    types := definitions.types.filter (!federationTypes.contains ·.name)
    directives := definitions.directives.filter (!federationDirectives.contains ·.name) }
  match kept.rootTypes.query with
  | none => kept
  | some query =>
      { kept with
        types := kept.types.map fun type =>
          if type.name == query then withoutFederationFields type else type }

/-- Names that a service declares, of types and of directives alike. -/
def declaredNames (definitions : Definitions) : List Name :=
  definitions.types.map (·.name) ++ definitions.directives.map (·.name)

/-- The declarations of federation that a service uses without declaring them. -/
def preludeDirectives (definitions : Definitions) : List DirectiveDefinition :=
  serviceDirectives.filter fun directive => !(declaredNames definitions).contains directive.name

def preludeTypes (definitions : Definitions) : List TypeDefinition :=
  serviceTypes.filter fun type => !(declaredNames definitions).contains type.name

def statedSchema (definitions : Definitions) : List Definition :=
  if definitions.operationTypes.isEmpty then []
  else
    [.schema {
      description := none
      directives := []
      operationTypes := definitions.rootTypes.items
    }]

/-- The document by which a service is checked: its own definitions, then those of federation. -/
def validationDocument (definitions : Definitions) : Document where
  definitions :=
    statedSchema definitions ++ definitions.types.map .type ++
      definitions.directives.map .directive ++
      (preludeDirectives definitions).map .directive ++ (preludeTypes definitions).map .type

def validationDeclarations (definitions : Definitions) : Declarations where
  types := definitions.types ++ preludeTypes definitions
  directives := definitions.directives ++ preludeDirectives definitions
  rootTypes := definitions.rootTypes

inductive CompositionProblem where
  | folding (problem : FoldingProblem)
  | rule (violation : Violation)
  | unordered (number : Text.OversizedNumber)
  | resolution (fault : ResolutionFault)
  | schema (problem : SchemaProblem)
  | noQueries
  | keyNotText (type : Name)
  | key (type : Name) (fields : String) (problem : KeyProblem)
  deriving DecidableEq, Repr

def CompositionProblem.message (source : String) : CompositionProblem → String
  | .folding problem => problem.message
  | .rule violation => violation.message
  | .unordered number => number.message
  | .resolution fault => fault.report source
  | .schema problem => problem.message
  | .noQueries => "No queries found in any subgraph: a supergraph must have a query root type."
  | .keyNotText type => s!"On type \"{type}\", the @key \"fields\" argument must be a string."
  | .key type fields problem => problem.message type fields

def CompositionProblem.obstacle? : CompositionProblem → Option Text.OversizedNumber
  | .unordered number => some number
  | _ => none

def keyUsageProblems (declarations : Declarations) (type : Name) (usage : DirectiveUsage) :
    List CompositionProblem :=
  match usage.argument? "fields" with
  | none => []
  | some argument =>
      match argument.value with
      | .string literal =>
          match keyProblems declarations type literal.text with
          | .ok problems => problems.map (.key type literal.text)
          | .error _ => []
      | _ => [.keyNotText type]

/-- The problems of the keys of a type. Only objects and interfaces can have keys. -/
def typeKeyProblems (declarations : Declarations) (type : TypeDefinition) :
    List CompositionProblem :=
  match type.kind with
  | .object | .interface =>
      (usagesOf "key" type.directives).flatMap (keyUsageProblems declarations type.name)
  | _ => []

def serviceProblems (definitions : Definitions) : List CompositionProblem :=
  match check (validationDocument definitions) with
  | .error number => [.unordered number]
  | .ok (violation :: rest) => (violation :: rest).map .rule
  | .ok [] =>
      let declarations := validationDeclarations definitions
      match resolve declarations with
      | .error fault => [.resolution fault]
      | .ok schema =>
          (schemaProblems schema).map .schema ++
            (if definitions.rootTypes.query.isNone then [.noQueries] else []) ++
            definitions.types.flatMap (typeKeyProblems declarations)

/-! ### The supergraph -/

def withoutFederationUsages (usages : List DirectiveUsage) : List DirectiveUsage :=
  usages.filter (!federationDirectives.contains ·.name)

def graphArgument (graph : Name) : Argument :=
  Argument.of "graph" (.enum graph)

def marker (name : Name) (graph : Name) (arguments : List Argument) : DirectiveUsage :=
  DirectiveUsage.of name (graphArgument graph :: arguments)

/-- Whether a key can be resolved is recorded only if it cannot. -/
def resolvableArgument (key : DirectiveUsage) : List Argument :=
  match (key.argument? "resolvable").map Argument.value with
  | some (.boolean false) => [Argument.of "resolvable" (.boolean false)]
  | _ => []

def keyMarker (graph : Name) (key : DirectiveUsage) : DirectiveUsage :=
  let fields := (key.argument? "fields").toList.map fun argument => Argument.of "key" argument.value
  marker typeMarker graph (fields ++ resolvableArgument key)

/-- One marker for each key of a type, or one without a key. -/
def typeMarkers (graph : Name) (usages : List DirectiveUsage) : List DirectiveUsage :=
  match usagesOf "key" usages with
  | [] => [marker typeMarker graph []]
  | keys => keys.map (keyMarker graph)

def setArgument (argument : Argument) : List Argument → List Argument
  | [] => [argument]
  | other :: rest =>
      if other.name == argument.name then argument :: rest
      else other :: setArgument argument rest

/-- A field directive with an argument that is recorded, and the name under which it is. -/
def recordedArguments : List (Name × Name × Name) :=
  [("requires", "fields", "requires"), ("provides", "fields", "provides"),
    ("override", "from", "override")]

def recordedArgument? (usage : DirectiveUsage) : Option Argument :=
  if usage.name == "external" then some (Argument.of "external" (.boolean true))
  else do
    let (argument, record) ← recordedArguments.lookup usage.name
    pure (Argument.of record (← usage.argument? argument).value)

def fieldMarkers (graph : Name) (usages : List DirectiveUsage) : List DirectiveUsage :=
  match (usages.filterMap recordedArgument?).foldl (fun set new => setArgument new set) [] with
  | [] => []
  | arguments => [marker "join__field" graph arguments]

def composeInputValue (definition : InputValueDefinition) : InputValueDefinition :=
  { definition with directives := withoutFederationUsages definition.directives }

def composeField (graph : Name) (definition : FieldDefinition) : FieldDefinition :=
  { definition with
    directives :=
      withoutFederationUsages definition.directives ++ fieldMarkers graph definition.directives
    arguments := definition.arguments.map composeInputValue }

def composeEnumValue (graph : Name) (definition : EnumValueDefinition) : EnumValueDefinition :=
  { definition with
    directives :=
      withoutFederationUsages definition.directives ++ [marker "join__enumValue" graph []] }

def memberMarkers (graph : Name) : TypeBody → List DirectiveUsage
  | .object interfaces _ | .interface interfaces _ =>
      interfaces.map fun name =>
        marker "join__implements" graph [Argument.of "interface" (.text name)]
  | .union members =>
      members.map fun name =>
        marker "join__unionMember" graph [Argument.of "member" (.text name)]
  | _ => []

def ownMarkers (graph : Name) (type : TypeDefinition) : List DirectiveUsage :=
  match type.kind with
  | .object | .interface => typeMarkers graph type.directives
  | _ => [marker typeMarker graph []]

def composeBody (graph : Name) : TypeBody → TypeBody
  | .scalar => .scalar
  | .object interfaces fields => .object interfaces (fields.map (composeField graph))
  | .interface interfaces fields => .interface interfaces (fields.map (composeField graph))
  | .union members => .union members
  | .enum values => .enum (values.map (composeEnumValue graph))
  | .inputObject fields => .inputObject (fields.map composeInputValue)

def composeType (graph : Name) (type : TypeDefinition) : TypeDefinition :=
  { type with
    directives :=
      withoutFederationUsages type.directives ++ ownMarkers graph type ++
        memberMarkers graph type.body
    body := composeBody graph type.body }

def graphEnum (service : String) : TypeDefinition where
  description := none
  name := "join__Graph"
  directives := []
  body := .enum [{
    description := none
    name := graphName service
    directives :=
      [DirectiveUsage.of "join__graph"
        [Argument.of "name" (.text service), Argument.of "url" (.text "")]]
  }]

def supergraphLinks : List DirectiveUsage :=
  [DirectiveUsage.of "link" [Argument.of "url" (.text linkSpecUrl)],
    DirectiveUsage.of "link"
      [Argument.of "url" (.text joinSpecUrl), Argument.of "for" (.enum "EXECUTION")]]

def supergraph (service : String) (definitions : Definitions) : SchemaDocument where
  types := (supergraphTypes ++ [graphEnum service]).foldl (fun types type => setType type types)
    (definitions.types.map (composeType (graphName service)))
  directives := supergraphDirectives ++ definitions.directives
  schemaDirectives := supergraphLinks
  rootTypes := definitions.rootTypes

def serviceDefinitions (document : Document) : Definitions :=
  dropFederationDeclarations (fold document)

/-- The problems that keep a service from being composed. -/
def compositionProblems (definitions : Definitions) : List CompositionProblem :=
  match definitions.problems with
  | problem :: rest => (problem :: rest).map .folding
  | [] => serviceProblems definitions

def compose (service : String) (document : Document) :
    Except (List CompositionProblem) SchemaDocument :=
  let definitions := serviceDefinitions document
  match compositionProblems definitions with
  | [] => .ok (supergraph service definitions)
  | problems => .error problems

def serviceReport (service source : String) (problem : CompositionProblem) : String :=
  s!"[{service}] " ++ problem.message source

end FederationSplit.Federation
