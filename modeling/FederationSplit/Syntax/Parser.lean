import FederationSplit.Syntax.Lexer

namespace FederationSplit.Syntax

/-- A parser, which knows how many tokens there are in all. That bounds its repetitions. -/
abbrev Parser (α : Type) := ReaderT Nat (StateT TokenStream (Except SyntaxError)) α

namespace Parser

def peek : Parser (Option Token) := do
  pure (← get).head?

def position : Parser Nat := do
  pure (← get).position

def tokenCount : Parser Nat := read

def advance : Parser Unit := do
  set (← liftM (← get).tail)

def fail (fault : Fault) : Parser α := do
  throw { fault, position := ← position }

def unexpected : Parser α := do
  fail (.unexpected (← peek))

/-- The next token satisfies the condition and is used up, or nothing is. -/
def skipIf (condition : Token → Bool) : Parser Bool := do
  match ← peek with
  | some token => if condition token then do advance; pure true else pure false
  | none => pure false

def skip (mark : Punctuator) : Parser Bool :=
  skipIf (· == .punctuator mark)

def skipKeyword (word : String) : Parser Bool :=
  skipIf (· == .name word)

def isNext (mark : Punctuator) : Parser Bool := do
  pure ((← peek) == some (.punctuator mark))

def expect (mark : Punctuator) : Parser Unit := do
  unless ← skip mark do
    fail (.expected (.punctuator mark) (← peek))

def keyword (word : String) : Parser Unit := do
  unless ← skipKeyword word do
    fail (.expected (.keyword word) (← peek))

def name : Parser Name := do
  match ← peek with
  | some (.name text) => advance; pure text
  | found => fail (.expected .name found)

/-- Items up to a closing punctuator, with a bound on their number. -/
def itemsUntil (close : Punctuator) (item : Parser α) : Nat → Parser (List α)
  | 0 => unexpected
  | bound + 1 => do
      if ← skip close then pure []
      else
        let first ← item
        pure (first :: (← itemsUntil close item bound))

def enclosed (opening : Punctuator) (item : Parser α) (closing : Punctuator) :
    Parser (List α) := do
  expect opening
  itemsUntil closing item ((← tokenCount) + 1)

def enclosedSome (opening : Punctuator) (item : Parser α) (closing : Punctuator) :
    Parser (List α) := do
  expect opening
  let first ← item
  pure (first :: (← itemsUntil closing item ((← tokenCount) + 1)))

def enclosedOption (opening : Punctuator) (item : Parser α) (closing : Punctuator) :
    Parser (List α) := do
  if ← isNext opening then enclosedSome opening item closing else pure []

def separatedRest (separator : Punctuator) (item : Parser α) : Nat → Parser (List α)
  | 0 => pure []
  | bound + 1 => do
      if ← skip separator then
        let first ← item
        pure (first :: (← separatedRest separator item bound))
      else pure []

def separated (separator : Punctuator) (item : Parser α) : Parser (List α) := do
  let _ ← skip separator
  let first ← item
  pure (first :: (← separatedRest separator item (← tokenCount)))

def nestingLimit : Nat := 200

def tooDeep : Parser α := fail .nestedTooDeeply

def collection (item : Parser Value) : Parser Value := do
  if ← isNext .bracketOpen then
    pure (.list (← enclosed .bracketOpen item .bracketClose))
  else
    let field : Parser (Name × Value) := do
      let fieldName ← name
      expect .colon
      pure (fieldName, ← item)
    pure (.object (← enclosed .braceOpen field .braceClose))

def variableValue (isConstant : Bool) : Parser Value := do
  let start ← position
  expect .dollar
  if isConstant then
    match ← peek with
    | some (.name text) => throw { fault := .variableInConstant text, position := start }
    | _ => throw { fault := .unexpected (some (.punctuator .dollar)), position := start }
  else pure (.variable (← name))

/-- A value; lists and objects are left to another parser. -/
def valueOf (isConstant : Bool) (nested : Parser Value) : Parser Value := do
  match ← peek with
  | some (.int digits) => advance; pure (.int digits)
  | some (.float digits) => advance; pure (.float digits)
  | some (.string literal) => advance; pure (.string literal)
  | some (.name "true") => advance; pure (.boolean true)
  | some (.name "false") => advance; pure (.boolean false)
  | some (.name "null") => advance; pure .null
  | some (.name text) => advance; pure (.enum text)
  | some (.punctuator .bracketOpen) | some (.punctuator .braceOpen) => nested
  | some (.punctuator .dollar) => variableValue isConstant
  | _ => unexpected

def valueWithin (isConstant : Bool) : Nat → Parser Value
  | 0 => valueOf isConstant tooDeep
  | depth + 1 => valueOf isConstant (collection (valueWithin isConstant depth))

def argument (isConstant : Bool) (depth : Nat) : Parser Argument := do
  let argumentName ← name
  expect .colon
  let origin ← position
  pure { name := argumentName, value := ← valueWithin isConstant depth, origin := some origin }

def arguments (isConstant : Bool) (depth : Nat) : Parser (List Argument) :=
  enclosedOption .parenOpen (argument isConstant depth) .parenClose

def directiveUsage (isConstant : Bool) (depth : Nat) : Parser DirectiveUsage := do
  let origin ← position
  expect .at
  pure { name := ← name, arguments := ← arguments isConstant depth, origin := some origin }

def directiveUsagesWithin (isConstant : Bool) (depth : Nat) : Nat → Parser (List DirectiveUsage)
  | 0 => pure []
  | bound + 1 => do
      if ← isNext .at then
        let first ← directiveUsage isConstant depth
        pure (first :: (← directiveUsagesWithin isConstant depth bound))
      else pure []

def directiveUsages (isConstant : Bool) (depth : Nat) : Parser (List DirectiveUsage) := do
  directiveUsagesWithin isConstant depth (← tokenCount)

def outerDirectiveUsages (isConstant : Bool) : Parser (List DirectiveUsage) :=
  directiveUsages isConstant nestingLimit

def typeRefOf (item : Parser TypeRef) : Parser TypeRef := do
  let type ←
    if ← skip .bracketOpen then do
      let inner ← item
      expect .bracketClose
      pure (TypeRef.list inner)
    else pure (TypeRef.named (← name))
  if ← skip .bang then pure (.nonNull type) else pure type

def typeRefWithin : Nat → Parser TypeRef
  | 0 => typeRefOf tooDeep
  | depth + 1 => typeRefOf (typeRefWithin depth)

def typeRef : Parser TypeRef := typeRefWithin nestingLimit

/-! ### Selections and executable definitions -/

/-- A fragment may not be called by the word that introduces its type condition. -/
def fragmentName : Parser Name := do
  if (← peek).bind Token.text? == some "on" then unexpected else name

def fragmentSelection (depth : Nat) (selections : Parser (List Selection)) : Parser Selection := do
  if ← skipKeyword "on" then
    let condition ← name
    let directives ← directiveUsages false depth
    pure (.inlineFragment (some condition) directives (← selections))
  else
    match ← peek with
    | some (.name _) =>
        let fragment ← fragmentName
        pure (.fragmentSpread fragment (← directiveUsages false depth))
    | _ =>
        let directives ← directiveUsages false depth
        pure (.inlineFragment none directives (← selections))

def fieldSelection (depth : Nat) (selections : Parser (List Selection)) : Parser Selection := do
  let first ← name
  let isRenamed ← skip .colon
  let fieldName ← if isRenamed then name else pure first
  let fieldArguments ← arguments false depth
  let directives ← directiveUsages false depth
  let inner ← if ← isNext .braceOpen then selections else pure []
  pure (.field (if isRenamed then some first else none) fieldName fieldArguments directives inner)

def selection (depth : Nat) (selections : Parser (List Selection)) : Parser Selection := do
  if ← skip .spread then fragmentSelection depth selections else fieldSelection depth selections

def selectionSetWithin : Nat → Parser (List Selection)
  | 0 => tooDeep
  | depth + 1 =>
      enclosedSome .braceOpen (selection depth (selectionSetWithin depth)) .braceClose

def selectionSet : Parser (List Selection) := selectionSetWithin nestingLimit

def description : Parser (Option StringLiteral) := do
  match ← peek with
  | some (.string literal) => advance; pure (some literal)
  | _ => pure none

def operationType : Parser OperationType := do
  let start ← position
  let word ← name
  match OperationType.ofKeyword? word with
  | some type => pure type
  | none => throw { fault := .unexpected (some (.name word)), position := start }

def defaultValue : Parser (Option Value) := do
  if ← skip .equals then pure (some (← valueWithin true nestingLimit)) else pure none

def variableDefinition : Parser VariableDefinition := do
  let _ ← description
  expect .dollar
  let variableName ← name
  expect .colon
  let type ← typeRef
  let default ← defaultValue
  pure {
    name := variableName
    type
    defaultValue := default
    directives := ← outerDirectiveUsages true
  }

def operationDefinition : Parser OperationDefinition := do
  let _ ← description
  if ← isNext .braceOpen then
    pure {
      type := .query
      name := none
      variableDefinitions := []
      directives := []
      selections := ← selectionSet
    }
  else
    let type ← operationType
    let operationName ←
      match ← peek with
      | some (.name _) => pure (some (← name))
      | _ => pure none
    let variableDefinitions ← enclosedOption .parenOpen variableDefinition .parenClose
    let directives ← outerDirectiveUsages false
    let selections ← selectionSet
    pure { type, name := operationName, variableDefinitions, directives, selections }

def fragmentDefinition : Parser FragmentDefinition := do
  let _ ← description
  keyword "fragment"
  let fragment ← fragmentName
  keyword "on"
  let typeCondition ← name
  let directives ← outerDirectiveUsages false
  pure { name := fragment, typeCondition, directives, selections := ← selectionSet }

def operationTypeDefinition : Parser (OperationType × Name) := do
  let type ← operationType
  expect .colon
  pure (type, ← name)

def inputValueDefinition : Parser InputValueDefinition := do
  let text ← description
  let valueName ← name
  expect .colon
  let type ← typeRef
  let default ← defaultValue
  pure {
    description := text
    name := valueName
    type
    defaultValue := default
    directives := ← outerDirectiveUsages true
  }

def argumentDefinitions : Parser (List InputValueDefinition) :=
  enclosedOption .parenOpen inputValueDefinition .parenClose

def fieldDefinition : Parser FieldDefinition := do
  let text ← description
  let fieldName ← name
  let parameters ← argumentDefinitions
  expect .colon
  let type ← typeRef
  pure {
    description := text
    name := fieldName
    arguments := parameters
    type
    directives := ← outerDirectiveUsages true
  }

def fieldDefinitions : Parser (List FieldDefinition) :=
  enclosedOption .braceOpen fieldDefinition .braceClose

/-- The words for constants cannot name an enum value. -/
def enumValueName : Parser Name := do
  let found ← peek
  if ["true", "false", "null"].any ((found.bind Token.text?) == some ·) then
    fail (.reservedEnumValue found)
  else name

def enumValueDefinition : Parser EnumValueDefinition := do
  let text ← description
  let valueName ← enumValueName
  pure { description := text, name := valueName, directives := ← outerDirectiveUsages true }

def interfaces : Parser (List Name) := do
  if ← skipKeyword "implements" then separated .ampersand name else pure []

def unionMembers : Parser (List Name) := do
  if ← skip .equals then separated .pipe name else pure []

def directiveLocation : Parser DirectiveLocation := do
  let start ← position
  let word ← name
  match DirectiveLocation.ofKeyword? word with
  | some location => pure location
  | none => throw { fault := .unexpected (some (.name word)), position := start }

/-! ### Type system definitions and extensions -/

def typeBody (kind : TypeKind) : Parser (Name × List DirectiveUsage × TypeBody) := do
  let typeName ← name
  match kind with
  | .scalar =>
      pure (typeName, ← outerDirectiveUsages true, .scalar)
  | .object =>
      let implemented ← interfaces
      let directives ← outerDirectiveUsages true
      pure (typeName, directives, .object implemented (← fieldDefinitions))
  | .interface =>
      let implemented ← interfaces
      let directives ← outerDirectiveUsages true
      pure (typeName, directives, .interface implemented (← fieldDefinitions))
  | .union =>
      let directives ← outerDirectiveUsages true
      pure (typeName, directives, .union (← unionMembers))
  | .enum =>
      let directives ← outerDirectiveUsages true
      pure (typeName, directives,
        .enum (← enclosedOption .braceOpen enumValueDefinition .braceClose))
  | .inputObject =>
      let directives ← outerDirectiveUsages true
      pure (typeName, directives,
        .inputObject (← enclosedOption .braceOpen inputValueDefinition .braceClose))

def typeDefinition (kind : TypeKind) : Parser TypeDefinition := do
  let text ← description
  keyword kind.keyword
  let (typeName, directives, body) ← typeBody kind
  pure { description := text, name := typeName, directives, body }

def isEmptyBody : TypeBody → Bool
  | .scalar => true
  | .object interfaces fields | .interface interfaces fields =>
      interfaces.isEmpty && fields.isEmpty
  | .union members => members.isEmpty
  | .enum values => values.isEmpty
  | .inputObject fields => fields.isEmpty

def typeExtension (kind : TypeKind) : Parser TypeExtension := do
  keyword "extend"
  keyword kind.keyword
  let (typeName, directives, body) ← typeBody kind
  if directives.isEmpty && isEmptyBody body then unexpected
  pure { name := typeName, directives, body }

def schemaDefinition : Parser SchemaDefinition := do
  let text ← description
  keyword "schema"
  let directives ← outerDirectiveUsages true
  let operationTypes ← enclosedSome .braceOpen operationTypeDefinition .braceClose
  pure { description := text, directives, operationTypes }

def schemaExtension : Parser SchemaDefinition := do
  keyword "extend"
  keyword "schema"
  let directives ← outerDirectiveUsages true
  let operationTypes ← enclosedOption .braceOpen operationTypeDefinition .braceClose
  if directives.isEmpty && operationTypes.isEmpty then unexpected
  pure { description := none, directives, operationTypes }

def directiveDefinition : Parser DirectiveDefinition := do
  let text ← description
  keyword "directive"
  expect .at
  let directiveName ← name
  let parameters ← argumentDefinitions
  let isRepeatable ← skipKeyword "repeatable"
  keyword "on"
  let locations ← separated .pipe directiveLocation
  pure {
    description := text
    name := directiveName
    arguments := parameters
    isRepeatable
    locations
  }

inductive Opening where
  | operation
  | fragment
  | schema
  | type (kind : TypeKind)
  | directive
  deriving DecidableEq, Repr

def typeKindOfKeyword? (word : String) : Option TypeKind :=
  [TypeKind.scalar, .object, .interface, .union, .enum, .inputObject].find? (·.keyword == word)

def Opening.ofKeyword? (word : String) : Option Opening :=
  match word with
  | "schema" => some .schema
  | "directive" => some .directive
  | "fragment" => some .fragment
  | _ =>
      match OperationType.ofKeyword? word with
      | some _ => some .operation
      | none => (typeKindOfKeyword? word).map .type

def isDescribed : Parser Bool := do
  match ← peek with
  | some (.string _) => pure true
  | _ => pure false

def lookahead : Parser TokenStream := do
  liftM (← get).tail

def extension : Parser Definition := do
  let stream ← lookahead
  let unknown : Parser Definition :=
    throw { fault := .unexpected stream.head?, position := stream.position }
  match stream.head? with
  | some (.name word) =>
      match Opening.ofKeyword? word with
      | some .schema => pure (.schemaExtension (← schemaExtension))
      | some (.type kind) => pure (.typeExtension (← typeExtension kind))
      | _ => unknown
  | _ => unknown

def definition : Parser Definition := do
  if ← isNext .braceOpen then
    pure (.operation (← operationDefinition))
  else
    let described ← isDescribed
    let stream ← if described then lookahead else get
    match stream.head? with
    | some (.name word) =>
        match Opening.ofKeyword? word with
        | some .schema => pure (.schema (← schemaDefinition))
        | some (.type kind) => pure (.type (← typeDefinition kind))
        | some .directive => pure (.directive (← directiveDefinition))
        | some .operation => pure (.operation (← operationDefinition))
        | some .fragment => pure (.fragment (← fragmentDefinition))
        | none =>
            if described then fail .descriptionMisplaced
            else if word == "extend" then extension
            else unexpected
    | some (.punctuator .braceOpen) => fail .descriptionOnShorthand
    | found =>
        throw { fault := .unexpected found, position := stream.position }

def definitionsWithin : Nat → Parser (List Definition)
  | 0 => pure []
  | bound + 1 => do
      if (← peek).isNone then pure []
      else
        let first ← definition
        pure (first :: (← definitionsWithin bound))

def document : Parser Document := do
  let first ← definition
  pure { definitions := first :: (← definitionsWithin (← tokenCount)) }

end Parser

def TokenStream.run (stream : TokenStream) (parser : Parser α) : Except SyntaxError α :=
  match stream with
  | .fault error => .error error
  | stream => (parser.run stream.length).run' stream

def Document.parse (text : String) : Except SyntaxError Document :=
  (tokens text).run Parser.document

end FederationSplit.Syntax
