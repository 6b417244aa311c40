namespace FederationSplit.Text

/-- A code point: a character, or half of a surrogate pair, counted from U+D800. -/
inductive CodePoint where
  | character (value : Char)
  | surrogate (half : Fin 0x800)
  deriving DecidableEq, Repr

def CodePoint.toNat : CodePoint → Nat
  | .character value => value.toNat
  | .surrogate half => 0xD800 + half

def CodePoint.ofNat (number : Nat) : CodePoint :=
  if 0xD800 ≤ number && number < 0xE000 then .surrogate (Fin.ofNat 0x800 (number - 0xD800))
  else .character (Char.ofNat number)

def CodePoint.isSurrogate : CodePoint → Bool
  | .character _ => false
  | .surrogate _ => true

def mark : Char := '\uffff'

def secondOf (half : Fin 0x800) : Char := Char.ofNat (0xE000 + half)

def marked (second : Char) : CodePoint :=
  if second = mark then .character mark
  else .surrogate (Fin.ofNat 0x800 (second.toNat - 0xE000))

/--
The characters that a code point is held as. No character stands for half of a surrogate pair, so it
is held as the mark with another one. The mark itself is held twice.
-/
def CodePoint.held : CodePoint → List Char
  | .character value => if value = mark then [mark, mark] else [value]
  | .surrogate half => [mark, secondOf half]

def hold (points : List CodePoint) : List Char :=
  points.flatMap CodePoint.held

/-- The code points that a text holds. -/
def codePoints : List Char → List CodePoint
  | [] => []
  | '\uffff' :: second :: rest => marked second :: codePoints rest
  | value :: rest => .character value :: codePoints rest

theorem toNat_secondOf (half : Fin 0x800) : (secondOf half).toNat = 0xE000 + half := by
  have valid : (0xE000 + half.val).isValidChar := by
    unfold Nat.isValidChar
    omega
  rw [secondOf, Char.ofNat, dif_pos valid]
  rfl

def size (text : List Char) : Nat := (codePoints text).length

def isWellFormed (text : String) : Bool :=
  (codePoints text.toList).all (!·.isSurrogate)

def ofPlain (plain : String) : String :=
  String.ofList (hold (plain.toList.map .character))

def hexDigits (width number : Nat) : List Char :=
  let digits := Nat.toDigits 16 number
  List.replicate (width - digits.length) '0' ++ digits

def CodePoint.plain : CodePoint → List Char
  | .character value => [value]
  | .surrogate half => '\\' :: 'u' :: hexDigits 4 (0xD800 + half)

def toPlain (text : String) : String :=
  String.ofList ((codePoints text.toList).flatMap CodePoint.plain)

def showHalves (text : String) : String :=
  ofPlain (toPlain text)

end FederationSplit.Text
