namespace FederationSplit.Text

structure DistanceRow where
  character : Char
  cells : List Nat

/--
The cells of a row behind its first. The arguments are the cells to the upper left and above, those
two rows above and two columns to the left, and the character before in either word.
-/
def distanceCells (character : Char) (above : DistanceRow) :
    Nat → Option Char → List Char → List Nat → List Nat → List Nat
  | left, previous, letter :: word, diagonal :: up :: cells, twoAbove =>
      let replaced := diagonal + if character = letter then 0 else 1
      let plain := min (min (up + 1) (left + 1)) replaced
      let cell :=
        match previous, twoAbove with
        | some previous, swapped :: _ =>
            if character = previous && above.character = letter then min plain (swapped + 1)
            else plain
        | _, _ => plain
      let further := match previous with
        | some _ => twoAbove.tail
        | none => twoAbove
      cell :: distanceCells character above cell (some letter) word (up :: cells) further
  | _, _, _, _, _ => []

/--
The last cell of the table, from the number of rows so far and the two last rows; none if it is
beyond the limit. Once all cells of a row are beyond it, those of later rows are as well.
-/
def distanceFrom (limit : Nat) (word : List Char) :
    Nat → DistanceRow → List Nat → List Char → Option Nat
  | _, above, _, [] => above.cells.getLast?.filter (· ≤ limit)
  | number, above, twoAbove, character :: rest =>
      let first := number + 1
      let cells := first :: distanceCells character above first none word above.cells twoAbove
      if cells.all (limit < ·) then none
      else distanceFrom limit word first { character, cells } above.cells rest

def editDistance? (limit : Nat) (left right : List Char) : Option Nat :=
  distanceFrom limit right 0 { character := ' ', cells := List.range (right.length + 1) } [] left

end FederationSplit.Text
