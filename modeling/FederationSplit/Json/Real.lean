namespace FederationSplit.Json

inductive Real where
  /--
  The decimal with the fewest digits that reads back as the number. The digits of zero are zero.
  -/
  | finite (isNegative : Bool) (digits : Nat) (exponent : Int)
  | infinite (isNegative : Bool)
  | undefined
  deriving DecidableEq, Repr

structure Ratio where
  numerator : Nat
  denominator : Nat

def Ratio.scaled (base : Nat) (number : Nat) (exponent : Int) : Ratio :=
  if exponent < 0 then { numerator := number, denominator := Nat.pow base exponent.natAbs }
  else { numerator := number * Nat.pow base exponent.natAbs, denominator := 1 }

def Ratio.le (left right : Ratio) : Bool :=
  left.numerator * right.denominator ≤ right.numerator * left.denominator

def Ratio.lt (left right : Ratio) : Bool :=
  left.numerator * right.denominator < right.numerator * left.denominator

/-- The quotient, rounded to the nearest number; a half goes to the even neighbour. -/
def roundHalfEven (numerator denominator : Nat) : Nat :=
  let quotient := numerator / denominator
  let rest := numerator % denominator
  if 2 * rest < denominator then quotient
  else if 2 * rest > denominator then quotient + 1
  else quotient + quotient % 2

structure Binary where
  significand : Nat
  exponent : Int

def leastSignificand : Nat := 4503599627370496

def Ratio.binaryExponent (ratio : Ratio) : Int :=
  let guess : Int := ratio.numerator.log2 - ratio.denominator.log2
  let power := Ratio.scaled 2 1 guess
  let logarithm := if ratio.lt power then guess - 1 else guess
  max (-1074) (logarithm - 52)

def Ratio.toBinary? (ratio : Ratio) : Option Binary :=
  let exponent := ratio.binaryExponent
  let unit := Ratio.scaled 2 1 exponent
  let significand :=
    roundHalfEven (ratio.numerator * unit.denominator) (ratio.denominator * unit.numerator)
  let (significand, exponent) :=
    if significand = 2 * leastSignificand then (leastSignificand, exponent + 1)
    else (significand, exponent)
  if exponent > 971 then none else some { significand, exponent }

/-- Does a ratio read back as a binary number, that is, lie in the interval that rounds to it? -/
def Binary.covers (number : Binary) (ratio : Ratio) : Bool :=
  let isBoundary := number.significand = leastSignificand && number.exponent > -1074
  let low := Ratio.scaled 2 (4 * number.significand - if isBoundary then 1 else 2)
    (number.exponent - 2)
  let high := Ratio.scaled 2 (4 * number.significand + 2) (number.exponent - 2)
  if number.significand % 2 = 0 then low.le ratio && ratio.le high
  else low.lt ratio && ratio.lt high

def Ratio.gridNeighbours (ratio : Ratio) (exponent : Int) : List Nat :=
  let unit := Ratio.scaled 10 1 exponent
  let numerator := ratio.numerator * unit.denominator
  let denominator := ratio.denominator * unit.numerator
  let below := numerator / denominator
  if roundHalfEven numerator denominator = below then [below, below + 1] else [below + 1, below]

def Binary.shortestOn (number : Binary) (ratio : Ratio) : Nat → Int → Option (Nat × Int)
  | 0, _ => none
  | grids + 1, exponent =>
      match (ratio.gridNeighbours exponent).find? fun digits =>
          number.covers (Ratio.scaled 10 digits exponent) with
      | some digits => some (digits, exponent)
      | none => number.shortestOn ratio grids (exponent - 1)

def dropTrailingZeros : Nat → Nat × Int → Nat × Int
  | 0, decimal => decimal
  | bound + 1, (digits, exponent) =>
      if digits % 10 = 0 then dropTrailingZeros bound (digits / 10, exponent + 1)
      else (digits, exponent)

def Real.ofDecimal (isNegative : Bool) (digits : Nat) (exponent : Int) : Real :=
  let magnitude : Int := (Nat.toDigits 10 digits).length + exponent
  if digits = 0 || magnitude < -400 then .finite isNegative 0 0
  else if magnitude > 400 then .infinite isNegative
  else
    match (Ratio.scaled 10 digits exponent).toBinary? with
    | none => .infinite isNegative
    | some number =>
        if number.significand = 0 then .finite isNegative 0 0
        else
          let ratio := Ratio.scaled 2 number.significand number.exponent
          let (digits, exponent) := (number.shortestOn ratio 800 400).getD (digits, exponent)
          let (digits, exponent) := dropTrailingZeros 20 (digits, exponent)
          .finite isNegative digits exponent

/--
The text of a number: with a point when that stands within sixteen digits behind and four zeros
before the first digit, otherwise with an exponent of two digits at least.
-/
def Real.display : Real → String
  | .undefined => "nan"
  | .infinite isNegative => if isNegative then "-inf" else "inf"
  | .finite isNegative digits exponent =>
      let sign := if isNegative then "-" else ""
      let written := Nat.toDigits 10 digits
      let point : Int := written.length + exponent
      let text :=
        if digits = 0 then "0.0"
        else if -4 < point && point ≤ 0 then
          "0." ++ String.ofList (List.replicate point.natAbs '0' ++ written)
        else if 0 < point && point ≤ 16 then
          let places := point.toNat
          let whole := written.take places ++ List.replicate (places - written.length) '0'
          let fraction := written.drop places
          String.ofList whole ++ "." ++
            (if fraction.isEmpty then "0" else String.ofList fraction)
        else
          let power := point - 1
          let powerDigits := Nat.toDigits 10 power.natAbs
          let fraction := written.drop 1
          String.ofList (written.take 1) ++
            (if fraction.isEmpty then "" else "." ++ String.ofList fraction) ++ "e" ++
            (if power < 0 then "-" else "+") ++
            String.ofList (List.replicate (2 - powerDigits.length) '0' ++ powerDigits)
      sign ++ text

end FederationSplit.Json
