import FederationSplit.Json.Value
import FederationSplit.Text.Quoted

namespace FederationSplit.Json

open FederationSplit.Text

def escapePoint (point : CodePoint) : List Char :=
  match point with
  | .character '"' => ['\\', '"']
  | .character '\\' => ['\\', '\\']
  | .character '\n' => ['\\', 'n']
  | .character '\r' => ['\\', 'r']
  | .character '\t' => ['\\', 't']
  | _ => if point.toNat < 0x20 then '\\' :: 'u' :: hexDigits 4 point.toNat else point.plain

/-- A text as a JSON string, in which no half of a surrogate pair stands but as an escape. -/
def printString (text : String) : String :=
  "\"" ++ String.ofList ((codePoints text.toList).flatMap escapePoint) ++ "\""

def Real.print : Real → String
  | .undefined => "NaN"
  | .infinite isNegative => if isNegative then "-Infinity" else "Infinity"
  | number => number.display

mutual

def print : Json → String
  | .null => "null"
  | .boolean value => if value then "true" else "false"
  | .integer value => toString value
  | .real value => value.print
  | .string text => printString text
  | .array items => "[" ++ ", ".intercalate (printAll items) ++ "]"
  | .object members => "\x7b" ++ ", ".intercalate (printMembers members) ++ "\x7d"

def printAll : List Json → List String
  | [] => []
  | value :: rest => value.print :: printAll rest

def printMembers : List (String × Json) → List String
  | [] => []
  | (key, value) :: rest => (printString key ++ ": " ++ value.print) :: printMembers rest

end

mutual

def display : Json → String
  | .null => "None"
  | .boolean value => if value then "True" else "False"
  | .integer value => toString value
  | .real value => value.display
  | .string text => Quoted.encode text
  | .array items => "[" ++ ", ".intercalate (displayAll items) ++ "]"
  | .object members => "\x7b" ++ ", ".intercalate (displayMembers members) ++ "\x7d"

def displayAll : List Json → List String
  | [] => []
  | value :: rest => value.display :: displayAll rest

def displayMembers : List (String × Json) → List String
  | [] => []
  | (key, value) :: rest => (Quoted.encode key ++ ": " ++ value.display) :: displayMembers rest

end

/-- A value as it is put into a running text: a string stands without quotes. -/
def inText : Json → String
  | .string text => text
  | value => value.display

end FederationSplit.Json
