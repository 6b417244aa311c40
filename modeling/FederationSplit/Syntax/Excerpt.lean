import FederationSplit.Syntax.Error
import FederationSplit.Text.Lines

namespace FederationSplit.Syntax

open FederationSplit.Text

def padLeft (width : Nat) (text : String) : String :=
  String.ofList (List.replicate (width - text.length) ' ') ++ text

structure ExcerptLine where
  gutter : String
  text : String

def ExcerptLine.render (width : Nat) (line : ExcerptLine) : String :=
  padLeft width line.gutter ++ if line.text.isEmpty then "" else " " ++ line.text

def renderExcerptLines (shown : List ExcerptLine) : String :=
  let width := ((shown.map (·.gutter.length)).max?).getD 0
  "\n".intercalate (shown.map (ExcerptLine.render width))

def caretLine (column : Nat) : ExcerptLine :=
  { gutter := "|", text := padLeft column "^" }

def numberedLine (number : Nat) (text : List Char) : ExcerptLine :=
  { gutter := s!"{number} |", text := String.ofList text }

def pieces (width : Nat) (line : List CodePoint) : List (List Char) :=
  (List.range ((line.length + width - 1) / width)).map fun index =>
    hold ((line.drop (index * width)).take width)

/-- A long line alone, in pieces of eighty code points, with the caret below the piece it marks. -/
def longLineExcerpt (location : Location) (line : List Char) : List ExcerptLine :=
  let cut := pieces 80 (codePoints line)
  let index := location.column / 80
  let rest : List ExcerptLine := cut.tail.map fun piece =>
    { gutter := "|", text := String.ofList piece }
  (cut.take 1).map (numberedLine location.line) ++ rest.take index ++
    [caretLine (location.column % 80)] ++ (rest.drop index).take 1

def shortLineExcerpt (location : Location) (all : List (List Char)) (line : List Char) :
    List ExcerptLine :=
  let before := if location.line ≤ 1 then [] else (all.drop (location.line - 2)).take 1
  let after := (all.drop location.line).take 1
  before.map (numberedLine (location.line - 1)) ++
    [numberedLine location.line line, caretLine location.column] ++
    after.map (numberedLine (location.line + 1))

def excerpt (source : String) (position : Nat) : String :=
  let location := Location.ofPosition source.toList position
  let all := lines source.toList
  let line := (all[location.line - 1]?).getD []
  let shown :=
    if size line > 120 then longLineExcerpt location line
    else shortLineExcerpt location all line
  s!"GraphQL request:{location.line}:{location.column}\n" ++ renderExcerptLines shown

def SyntaxError.report (source : String) (error : SyntaxError) : String :=
  error.message ++ "\n\n" ++ excerpt source error.position

end FederationSplit.Syntax
