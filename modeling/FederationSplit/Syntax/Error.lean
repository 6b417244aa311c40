import FederationSplit.Syntax.Token
import FederationSplit.Text.CodePoint

namespace FederationSplit.Syntax

open FederationSplit.Text (CodePoint)

inductive Expectation where
  | punctuator (mark : Punctuator)
  | name
  | keyword (word : String)
  deriving DecidableEq, Repr

def Expectation.describe : Expectation → String
  | .punctuator mark => s!"'{mark.text}'"
  | .name => "Name"
  | .keyword word => s!"'{word}'"

/-- A fault. An absent code point or token stands for the end of the text. -/
inductive Fault where
  | unexpectedCharacter (found : CodePoint)
  | invalidCharacter (found : CodePoint)
  | invalidStringCharacter (found : CodePoint)
  | singleQuote
  | digitAfterZero (found : CodePoint)
  | digitExpected (found : Option CodePoint)
  | unterminatedString
  | invalidEscape (text : String)
  | invalidUnicodeEscape (text : String)
  | expected (wanted : Expectation) (found : Option Token)
  | unexpected (found : Option Token)
  | reservedEnumValue (found : Option Token)
  | variableInConstant (name : Name)
  | descriptionOnShorthand
  | descriptionMisplaced
  | nestedTooDeeply
  deriving DecidableEq, Repr

structure SyntaxError where
  fault : Fault
  position : Nat
  deriving DecidableEq, Repr

def hexadecimal (width : Nat) (number : Nat) : String :=
  let digits := (Nat.toDigits 16 number).map Char.toUpper
  String.ofList (List.replicate (width - digits.length) '0' ++ digits)

def describePoint (point : CodePoint) : String :=
  let number := s!"U+{hexadecimal 4 point.toNat}"
  match point with
  | .surrogate _ => number
  | .character character =>
      if ' ' ≤ character ∧ character ≤ '~' then s!"'{character}'" else number

def describePoint? : Option CodePoint → String
  | none => "<EOF>"
  | some point => describePoint point

def describeToken : Option Token → String
  | none => "<EOF>"
  | some token => token.describe

def Fault.message : Fault → String
  | .unexpectedCharacter found => s!"Unexpected character: {describePoint found}."
  | .invalidCharacter found => s!"Invalid character: {describePoint found}."
  | .invalidStringCharacter found =>
      s!"Invalid character within String: {describePoint found}."
  | .singleQuote =>
      "Unexpected single quote character ('), did you mean to use a double quote (\")?"
  | .digitAfterZero found =>
      s!"Invalid number, unexpected digit after 0: {describePoint found}."
  | .digitExpected found =>
      s!"Invalid number, expected digit but got: {describePoint? found}."
  | .unterminatedString => "Unterminated string."
  | .invalidEscape text => s!"Invalid character escape sequence: '{text}'."
  | .invalidUnicodeEscape text => s!"Invalid Unicode escape sequence: '{text}'."
  | .expected wanted found => s!"Expected {wanted.describe}, found {describeToken found}."
  | .unexpected found => s!"Unexpected {describeToken found}."
  | .reservedEnumValue found =>
      s!"{describeToken found} is reserved and cannot be used for an enum value."
  | .variableInConstant name => s!"Unexpected variable '${name}' in constant value."
  | .descriptionOnShorthand =>
      "Unexpected description, descriptions are not supported on shorthand queries."
  | .descriptionMisplaced =>
      "Unexpected description, only GraphQL definitions support descriptions."
  | .nestedTooDeeply => "Document is nested too deeply. Parsing aborted."

def SyntaxError.message (error : SyntaxError) : String :=
  "Syntax Error: " ++ error.fault.message

end FederationSplit.Syntax
