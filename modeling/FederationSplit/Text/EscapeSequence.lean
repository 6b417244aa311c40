namespace FederationSplit.Text

def isSequenceParameter (character : Char) : Bool :=
  '0' ≤ character && character ≤ '?'

def isSequenceIntermediate (character : Char) : Bool :=
  ' ' ≤ character && character ≤ '/'

def isSequenceFinal (character : Char) : Bool :=
  '@' ≤ character && character ≤ '~'

def afterEscapeSequence? : List Char → Option (List Char)
  | '\x1b' :: '[' :: rest =>
      match (rest.dropWhile isSequenceParameter).dropWhile isSequenceIntermediate with
      | final :: after => if isSequenceFinal final then some after else none
      | [] => none
  | _ => none

theorem afterEscapeSequence?_length_lt {text after : List Char}
    (found : afterEscapeSequence? text = some after) : after.length < text.length := by
  unfold afterEscapeSequence? at found
  split at found
  next rest =>
    have bound : ((rest.dropWhile isSequenceParameter).dropWhile isSequenceIntermediate).length ≤
        rest.length :=
      ((List.dropWhile_suffix _).trans (List.dropWhile_suffix _)).length_le
    split at found
    next final others same =>
      rw [same] at bound
      split at found
      · cases found
        simp only [List.length_cons] at bound ⊢
        omega
      · cases found
    next => cases found
  next => cases found

def dropEscapeSequences : List Char → List Char
  | [] => []
  | character :: rest =>
      match found : afterEscapeSequence? (character :: rest) with
      | some after =>
          have := afterEscapeSequence?_length_lt found
          dropEscapeSequences after
      | none => character :: dropEscapeSequences rest
termination_by text => text.length
decreasing_by
  · exact this
  · simp

def withoutEscapeSequences (text : String) : String :=
  String.ofList (dropEscapeSequences text.toList)

end FederationSplit.Text
