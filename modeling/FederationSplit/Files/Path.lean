import FederationSplit.Text.CodePoint

namespace FederationSplit.Files

open FederationSplit.Text

abbrev Place := List String

def Place.toText (place : Place) : String :=
  "/" ++ "/".intercalate place

def aboveName : String := ".."

/--
May a code point stand in a name? Half of a surrogate pair may if it stands for a single byte that
is no part of a text.
-/
def isNamePoint : CodePoint → Bool
  | .character value => value != '\x00'
  | .surrogate half => 0x480 ≤ half.val && half.val ≤ 0x4FF

def canBeName (text : String) : Bool :=
  (codePoints text.toList).all isNamePoint

def sizeOfPoint : CodePoint → Nat
  | .character value => value.utf8Size
  | .surrogate _ => 1

def sizeOfName (name : String) : Nat :=
  (codePoints name.toList).foldl (fun size point => size + sizeOfPoint point) 0

/--
A path as it is written: names from the root or from the working directory, among which `..` leads
to the directory above.
-/
structure Path where
  isAbsolute : Bool
  parts : List String
  deriving DecidableEq, Repr

namespace Path

def splitAtSlashes : List Char → List (List Char)
  | [] => [[]]
  | '/' :: rest => [] :: splitAtSlashes rest
  | character :: rest =>
      match splitAtSlashes rest with
      | [] => [[character]]
      | part :: following => (character :: part) :: following

/-- Reads a path. Empty names and those of the directory itself lead nowhere. -/
def ofText (text : String) : Path where
  isAbsolute := text.toList.head? = some '/'
  parts := ((splitAtSlashes text.toList).map String.ofList).filter fun part =>
    part != "" && part != "."

def ofPlace (place : Place) : Path where
  isAbsolute := true
  parts := place

def toText (path : Path) : String :=
  let names := "/".intercalate path.parts
  if path.isAbsolute then "/" ++ names else if path.parts.isEmpty then "." else names

def name (path : Path) : String :=
  path.parts.getLast?.getD ""

def parent (path : Path) : Path :=
  { path with parts := path.parts.dropLast }

def start (path : Path) (workingDirectory : Place) : Place :=
  if path.isAbsolute then [] else workingDirectory

def follow (place : Place) (part : String) : Place :=
  if part = aboveName then place.dropLast else place ++ [part]

/-- The place that a path names by itself, whether anything is there or not. -/
def place (path : Path) (workingDirectory : Place) : Place :=
  path.parts.foldl follow (path.start workingDirectory)

def placesAlong (path : Path) (workingDirectory : Place) : List Place :=
  let step (passed : Place × List Place) (part : String) : Place × List Place :=
    let next := follow passed.1 part
    (next, passed.2 ++ [next])
  (path.parts.foldl step (path.start workingDirectory, [])).2

end Path

end FederationSplit.Files
