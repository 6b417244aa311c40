import FederationSplit.Text.Printable
import FederationSplit.Text.CodePoint

namespace FederationSplit.Text.Quoted

def escapeNumber (number : Nat) : List Char :=
  if number ≤ 0xFF then '\\' :: 'x' :: hexDigits 2 number
  else if number ≤ 0xFFFF then '\\' :: 'u' :: hexDigits 4 number
  else '\\' :: 'U' :: hexDigits 8 number

def escapePoint (quote : Char) : CodePoint → List Char
  | .character '\t' => ['\\', 't']
  | .character '\n' => ['\\', 'n']
  | .character '\r' => ['\\', 'r']
  | .character character =>
      if character == quote || character == '\\' then ['\\', character]
      else if isPrintable character then [character]
      else escapeNumber character.toNat
  | .surrogate half => escapeNumber (CodePoint.surrogate half).toNat

/-- Single quotes, unless the text holds some and no double ones. -/
def quoteFor (text : List Char) : Char :=
  if text.contains '\'' && !text.contains '"' then '"' else '\''

def encode (text : String) : String :=
  let quote := quoteFor text.toList
  String.ofList (quote :: (codePoints text.toList).flatMap (escapePoint quote) ++ [quote])

end FederationSplit.Text.Quoted
