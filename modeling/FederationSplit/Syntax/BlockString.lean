import FederationSplit.Text.Lines

namespace FederationSplit.Syntax.BlockString

open FederationSplit.Text

def isIndentation (character : Char) : Bool :=
  character == ' ' || character == '\t'

def indentation (line : List Char) : Nat :=
  (line.takeWhile isIndentation).length

def isBlankLine (line : List Char) : Bool :=
  line.all isIndentation

def commonIndentation (lines : List (List Char)) : Option Nat :=
  ((lines.filter (!isBlankLine ·)).map indentation).min?

def trimBlankLines (lines : List (List Char)) : List (List Char) :=
  ((lines.dropWhile isBlankLine).reverse.dropWhile isBlankLine).reverse

/-- Removes the common indentation of all lines but the first, then the blank lines at the ends. -/
def dedent : List (List Char) → List (List Char)
  | [] => []
  | first :: following =>
      let width := (commonIndentation following).getD 0
      trimBlankLines (first :: following.map (·.drop width))

def value (raw : List Char) : List Char :=
  ['\n'].intercalate (dedent (lines raw))

def escape : List Char → List Char
  | '"' :: '"' :: '"' :: rest => '\\' :: '"' :: '"' :: '"' :: escape rest
  | character :: rest => character :: escape rest
  | [] => []

def tripleQuote : List Char := ['"', '"', '"']

/--
Writes a text between triple quotes. The closing quotes go on a line of their own when the text has
several lines, is long, or ends in a way that would run into them; the opening quotes when the
text would otherwise be read with another indentation.
-/
def print (text : List Char) : List Char :=
  let escaped := escape text
  let written := lines escaped
  let isSingleLine := written.length == 1
  let forceLeadingLine := !isSingleLine && written.tail.all fun line =>
    match line with
    | [] => true
    | character :: _ => isIndentation character
  let endsWithTripleQuote := ('\\' :: tripleQuote).isSuffixOf escaped
  let endsWithQuote := text.getLast? == some '"' && !endsWithTripleQuote
  let endsWithBackslash := text.getLast? == some '\\'
  let forceTrailingLine := endsWithQuote || endsWithBackslash
  let isMultiline := !isSingleLine || size text > 70 || forceTrailingLine || forceLeadingLine ||
    endsWithTripleQuote
  let skipLeadingLine := isSingleLine &&
    match text with
    | [] => false
    | character :: _ => isIndentation character
  let opening := if (isMultiline && !skipLeadingLine) || forceLeadingLine then ['\n'] else []
  let closing := if isMultiline || forceTrailingLine then ['\n'] else []
  tripleQuote ++ opening ++ escaped ++ closing ++ tripleQuote

end FederationSplit.Syntax.BlockString
