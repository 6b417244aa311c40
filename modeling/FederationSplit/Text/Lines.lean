import FederationSplit.Text.CodePoint

namespace FederationSplit.Text

def isLineEnd (character : Char) : Bool :=
  character == '\n' || character == '\r'

/-- The lines of a text, without their ends. There is always at least one. -/
def lines : List Char → List (List Char)
  | [] => [[]]
  | '\r' :: '\n' :: rest => [] :: lines rest
  | character :: rest =>
      if isLineEnd character then [] :: lines rest
      else
        match lines rest with
        | [] => [[character]]
        | line :: following => (character :: line) :: following

def withLineFeeds : List Char → List Char
  | [] => []
  | '\r' :: '\n' :: rest => '\n' :: withLineFeeds rest
  | '\r' :: rest => '\n' :: withLineFeeds rest
  | character :: rest => character :: withLineFeeds rest

structure Location where
  line : Nat
  column : Nat
  deriving DecidableEq, Repr

/--
Where the character at a position stands, when the text begins at the given location. A column is
the place of a code point, which may be held as two characters.
-/
def Location.advance : Location → List Char → Nat → Location
  | location, [], offset => { location with column := location.column + offset }
  | location, _ :: _, 0 => location
  | location, '\r' :: '\n' :: rest, offset + 2 =>
      advance { line := location.line + 1, column := 1 } rest offset
  | location, '\uffff' :: _ :: rest, offset + 2 =>
      advance { location with column := location.column + 1 } rest offset
  | location, character :: rest, offset + 1 =>
      if isLineEnd character then
        advance { line := location.line + 1, column := 1 } rest offset
      else advance { location with column := location.column + 1 } rest offset

def Location.ofPosition (text : List Char) (position : Nat) : Location :=
  Location.advance { line := 1, column := 1 } text position

end FederationSplit.Text
