import FederationSplit.Syntax.BlockString
import FederationSplit.Syntax.Error

namespace FederationSplit.Syntax

def joinNonEmpty (separator : String) (parts : List String) : String :=
  separator.intercalate (parts.filter (!·.isEmpty))

def enclose (opening text closing : String) : String :=
  if text.isEmpty then "" else opening ++ text ++ closing

def indentFollowing : List Char → List Char
  | [] => []
  | '\n' :: rest => '\n' :: ' ' :: ' ' :: indentFollowing rest
  | character :: rest => character :: indentFollowing rest

def indent (text : String) : String :=
  enclose "  " (String.ofList (indentFollowing text.toList)) ""

def braced (items : List String) : String :=
  if items.isEmpty then "" else "\x7b\n" ++ indent (joinNonEmpty "\n" items) ++ "\n\x7d"

def escapeCharacter (character : Char) : List Char :=
  match character with
  | '"' => ['\\', '"']
  | '\\' => ['\\', '\\']
  | '\x08' => ['\\', 'b']
  | '\t' => ['\\', 't']
  | '\n' => ['\\', 'n']
  | '\x0c' => ['\\', 'f']
  | '\r' => ['\\', 'r']
  | _ =>
      if character.toNat < 0x20 || (0x7F ≤ character.toNat && character.toNat < 0xA0) then
        '\\' :: 'u' :: (hexadecimal 4 character.toNat).toList
      else [character]

def StringLiteral.print (literal : StringLiteral) : String :=
  if literal.isBlock then String.ofList (BlockString.print literal.text.toList)
  else "\"" ++ String.ofList (literal.text.toList.flatMap escapeCharacter) ++ "\""

mutual

def Value.print : Value → String
  | .variable name => "$" ++ name
  | .int digits => digits
  | .float digits => digits
  | .string literal => literal.print
  | .boolean true => "true"
  | .boolean false => "false"
  | .null => "null"
  | .enum name => name
  | .list items => "[" ++ ", ".intercalate (Value.printAll items) ++ "]"
  | .object fields => "\x7b" ++ ", ".intercalate (Value.printFields fields) ++ "\x7d"

def Value.printAll : List Value → List String
  | [] => []
  | value :: rest => value.print :: Value.printAll rest

def Value.printFields : List (Name × Value) → List String
  | [] => []
  | (name, value) :: rest => (name ++ ": " ++ value.print) :: Value.printFields rest

end

def Argument.print (argument : Argument) : String :=
  argument.name ++ ": " ++ argument.value.print

def DirectiveUsage.print (usage : DirectiveUsage) : String :=
  "@" ++ usage.name ++ enclose "(" (joinNonEmpty ", " (usage.arguments.map Argument.print)) ")"

def printUsages (usages : List DirectiveUsage) : String :=
  joinNonEmpty " " (usages.map DirectiveUsage.print)

def TypeRef.print : TypeRef → String
  | .named name => name
  | .list item => "[" ++ item.print ++ "]"
  | .nonNull item => item.print ++ "!"

/-- Arguments of a field share its line as long as that has at most eighty code points. -/
def printFieldHead (label : String) (arguments : List Argument) : String :=
  let written := arguments.map Argument.print
  let line := label ++ enclose "(" (joinNonEmpty ", " written) ")"
  if Text.size line.toList > 80 then
    label ++ enclose "(\n" (indent (joinNonEmpty "\n" written)) "\n)"
  else line

mutual

def Selection.print : Selection → String
  | .field responseName name arguments directives selections =>
      let label :=
        match responseName with
        | some responseName => responseName ++ ": " ++ name
        | none => name
      joinNonEmpty " "
        [printFieldHead label arguments, printUsages directives,
          braced (Selection.printAll selections)]
  | .fragmentSpread name directives =>
      "..." ++ name ++ enclose " " (printUsages directives) ""
  | .inlineFragment typeCondition directives selections =>
      joinNonEmpty " "
        ["...", enclose "on " (typeCondition.getD "") "", printUsages directives,
          braced (Selection.printAll selections)]

def Selection.printAll : List Selection → List String
  | [] => []
  | selection :: rest => selection.print :: Selection.printAll rest

end

def printSelectionSet (selections : List Selection) : String :=
  braced (Selection.printAll selections)

/-! ### Type system definitions -/

def describe (description : Option StringLiteral) (text : String) : String :=
  match description with
  | none => text
  | some literal => literal.print ++ "\n" ++ text

def InputValueDefinition.print (definition : InputValueDefinition) : String :=
  describe definition.description <| joinNonEmpty " "
    [definition.name ++ ": " ++ definition.type.print,
      enclose "= " ((definition.defaultValue.map Value.print).getD "") "",
      printUsages definition.directives]

/-- Argument definitions go on lines of their own when one of them takes several lines. -/
def printArgumentDefinitions (definitions : List InputValueDefinition) : String :=
  let written := definitions.map InputValueDefinition.print
  if written.any (·.toList.contains '\n') then
    enclose "(\n" (indent (joinNonEmpty "\n" written)) "\n)"
  else enclose "(" (joinNonEmpty ", " written) ")"

def FieldDefinition.print (definition : FieldDefinition) : String :=
  describe definition.description <|
    definition.name ++ printArgumentDefinitions definition.arguments ++ ": " ++
      definition.type.print ++ enclose " " (printUsages definition.directives) ""

def EnumValueDefinition.print (definition : EnumValueDefinition) : String :=
  describe definition.description <|
    joinNonEmpty " " [definition.name, printUsages definition.directives]

def printType (name : Name) (directives : List DirectiveUsage) (body : TypeBody) : String :=
  let usages := printUsages directives
  let parts :=
    match body with
    | .scalar => [usages]
    | .object interfaces fields | .interface interfaces fields =>
        [enclose "implements " (joinNonEmpty " & " interfaces) "", usages,
          braced (fields.map FieldDefinition.print)]
    | .union members => [usages, enclose "= " (joinNonEmpty " | " members) ""]
    | .enum values => [usages, braced (values.map EnumValueDefinition.print)]
    | .inputObject fields => [usages, braced (fields.map InputValueDefinition.print)]
  joinNonEmpty " " (body.kind.keyword :: name :: parts)

def TypeDefinition.print (definition : TypeDefinition) : String :=
  describe definition.description (printType definition.name definition.directives definition.body)

def DirectiveDefinition.print (definition : DirectiveDefinition) : String :=
  describe definition.description <|
    "directive @" ++ definition.name ++ printArgumentDefinitions definition.arguments ++
      (if definition.isRepeatable then " repeatable" else "") ++ " on " ++
      joinNonEmpty " | " (definition.locations.map DirectiveLocation.keyword)

def printOperationType (operationType : OperationType × Name) : String :=
  operationType.1.keyword ++ ": " ++ operationType.2

def SchemaDefinition.print (definition : SchemaDefinition) : String :=
  describe definition.description <| joinNonEmpty " "
    ["schema", printUsages definition.directives,
      braced (definition.operationTypes.map printOperationType)]

end FederationSplit.Syntax
