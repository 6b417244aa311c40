namespace FederationSplit.Text

inductive NaturalPart where
  | text (letters : List Char)
  | number (digits : List Char)
  deriving DecidableEq, Repr

def valueOfDigits (digits : List Char) : Nat :=
  digits.foldl (fun value digit => 10 * value + (digit.toNat - '0'.toNat)) 0

def NaturalPart.compare : NaturalPart → NaturalPart → Ordering
  | .text left, .text right => Ord.compare (String.ofList left) (String.ofList right)
  | .number left, .number right =>
      (Ord.compare (valueOfDigits left) (valueOfDigits right)).then
        (Ord.compare (String.ofList left) (String.ofList right))
  | .text _, .number _ => .lt
  | .number _, .text _ => .gt

/-- Cuts a word into parts, starting with text and changing between text and numbers. -/
def naturalParts : List Char → List NaturalPart
  | [] => [.text []]
  | character :: rest =>
      match character.isDigit, naturalParts rest with
      | true, .text [] :: .number digits :: following =>
          .text [] :: .number (character :: digits) :: following
      | true, parts => .text [] :: .number [character] :: parts
      | false, .text letters :: following => .text (character :: letters) :: following
      | false, parts => .text [character] :: parts

def compareNaturalParts : List NaturalPart → List NaturalPart → Ordering
  | [], [] => .eq
  | [], _ :: _ => .lt
  | _ :: _, [] => .gt
  | left :: lefts, right :: rights => (left.compare right).then (compareNaturalParts lefts rights)

def compareNatural (left right : String) : Ordering :=
  compareNaturalParts (naturalParts left.toList) (naturalParts right.toList)

def digitLimit : Nat := 4300

structure OversizedNumber where
  digitCount : Nat
  deriving DecidableEq, Repr

def OversizedNumber.message (number : OversizedNumber) : String :=
  s!"Exceeds the limit ({digitLimit} digits) for integer string conversion: " ++
    s!"value has {number.digitCount} digits; " ++
    "use sys.set_int_max_str_digits() to increase the limit"

def NaturalPart.oversized? : NaturalPart → Option OversizedNumber
  | .text _ => none
  | .number digits =>
      if digits.length > digitLimit then some { digitCount := digits.length } else none

def oversizedNumber? (word : String) : Option OversizedNumber :=
  (naturalParts word.toList).findSome? NaturalPart.oversized?

end FederationSplit.Text
