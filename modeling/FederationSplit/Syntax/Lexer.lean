import FederationSplit.Syntax.BlockString
import FederationSplit.Syntax.TokenStream

namespace FederationSplit.Syntax

open FederationSplit.Text (CodePoint)

/-- A fault, and how far behind the start of the token it lies. -/
structure TokenFault where
  fault : Fault
  offset : Nat
  deriving DecidableEq, Repr

structure Lexeme where
  token : Option Token
  width : Nat
  deriving DecidableEq, Repr

def isNameStart (character : Char) : Bool :=
  character.isAlpha || character == '_'

def isNamePart (character : Char) : Bool :=
  character.isAlphanum || character == '_'

def isIgnored (character : Char) : Bool :=
  character == ' ' || character == '\t' || character == ',' || character == '\ufeff' ||
    Text.isLineEnd character

def point? (text : List Char) : Option CodePoint :=
  (Text.codePoints text).head?

def takePoints (number : Nat) (text : List Char) : String :=
  String.ofList (Text.hold ((Text.codePoints text).take number))

def commentWidth : List Char → Nat
  | [] => 0
  | '\uffff' :: second :: rest =>
      if (Text.marked second).isSurrogate then 0 else commentWidth rest + 2
  | character :: rest => if Text.isLineEnd character then 0 else commentWidth rest + 1

def scanDigits (offset : Nat) (text : List Char) : Except TokenFault (List Char × List Char) :=
  match text.takeWhile Char.isDigit with
  | [] => .error { fault := .digitExpected (point? text), offset }
  | digits => .ok (digits, text.dropWhile Char.isDigit)

def scanInteger (offset : Nat) : List Char → Except TokenFault (List Char × List Char)
  | '0' :: rest =>
      match rest.head? with
      | some digit =>
          if digit.isDigit then
            .error { fault := .digitAfterZero (.character digit), offset := offset + 1 }
          else .ok (['0'], rest)
      | none => .ok (['0'], rest)
  | text => scanDigits offset text

def scanFraction (offset : Nat) : List Char → Except TokenFault (List Char × List Char)
  | '.' :: rest => do
      let (digits, rest) ← scanDigits (offset + 1) rest
      pure ('.' :: digits, rest)
  | text => .ok ([], text)

def scanExponent (offset : Nat) : List Char → Except TokenFault (List Char × List Char)
  | [] => .ok ([], [])
  | mark :: rest =>
      if mark == 'e' || mark == 'E' then
        match rest with
        | [] => .error { fault := .digitExpected none, offset := offset + 1 }
        | sign :: following =>
            if sign == '+' || sign == '-' then do
              let (digits, rest) ← scanDigits (offset + 2) following
              pure (mark :: sign :: digits, rest)
            else do
              let (digits, rest) ← scanDigits (offset + 1) (sign :: following)
              pure (mark :: digits, rest)
      else .ok ([], mark :: rest)

def scanSign : List Char → List Char × List Char
  | '-' :: rest => (['-'], rest)
  | text => ([], text)

def scanNumber (text : List Char) : Except TokenFault Lexeme := do
  let (sign, rest) := scanSign text
  let (whole, rest) ← scanInteger sign.length rest
  let mantissa := sign ++ whole
  let (fraction, rest) ← scanFraction mantissa.length rest
  let decimal := mantissa ++ fraction
  let (exponent, rest) ← scanExponent decimal.length rest
  let digits := decimal ++ exponent
  match rest with
  | [] => pure ()
  | next :: _ =>
      if next == '.' || isNameStart next then
        throw { fault := .digitExpected (some (.character next)), offset := digits.length }
  let isInteger := fraction.isEmpty && exponent.isEmpty
  let written := String.ofList digits
  let token := if isInteger then Token.int written else .float written
  pure { token := some token, width := digits.length }

/-! ### Strings -/

def hexDigit? (character : Char) : Option Nat :=
  if character.isDigit then some (character.toNat - '0'.toNat)
  else if 'a' ≤ character ∧ character ≤ 'f' then some (character.toNat - 'a'.toNat + 10)
  else if 'A' ≤ character ∧ character ≤ 'F' then some (character.toNat - 'A'.toNat + 10)
  else none

def hexNumber? (digits : List Char) : Option Nat :=
  digits.foldlM (fun number digit => (hexDigit? digit).map (16 * number + ·)) 0

def fourHexDigits? (text : List Char) : Option Nat :=
  let digits := text.take 4
  if digits.length < 4 then none else hexNumber? digits

def isHighSurrogate (number : Nat) : Bool := 0xD800 ≤ number && number ≤ 0xDBFF

def isLowSurrogate (number : Nat) : Bool := 0xDC00 ≤ number && number ≤ 0xDFFF

def charOfNat? (number : Nat) : Option Char :=
  if number.isValidChar then some (Char.ofNat number) else none

def surrogatePair? (high low : Nat) : Option Char :=
  if isHighSurrogate high && isLowSurrogate low then
    charOfNat? (0x10000 + (high - 0xD800) * 0x400 + (low - 0xDC00))
  else none

/--
The character written by four hexadecimal digits, or by a surrogate pair of two such escapes, and
the width of the escape with its backslash.
-/
def scanFixedEscape (text : List Char) : Option (Char × Nat) := do
  let number ← fourHexDigits? text
  match charOfNat? number with
  | some character => pure (character, 6)
  | none =>
      match text.drop 4 with
      | '\\' :: 'u' :: rest =>
          let character ← surrogatePair? number (← fourHexDigits? rest)
          pure (character, 12)
      | _ => none

def scanBracedEscape (text : List Char) : Option (Char × Nat) :=
  let digits := (text.take 9).takeWhile fun character => (hexDigit? character).isSome
  match (text.take 9).drop digits.length with
  | '\x7d' :: _ => do
      if digits.isEmpty then none
      let character ← charOfNat? (← hexNumber? digits)
      pure (character, digits.length + 4)
  | _ => none

/-- How much of a bad braced escape is quoted: up to the character that ended it. -/
def bracedEscapeExtent (text : List Char) : Nat :=
  let window := text.take 9
  let digits := window.takeWhile fun character => (hexDigit? character).isSome
  min window.length (digits.length + 1)

def simpleEscape? : Char → Option Char
  | '"' => some '"'
  | '\\' => some '\\'
  | '/' => some '/'
  | 'b' => some '\x08'
  | 'f' => some '\x0c'
  | 'n' => some '\n'
  | 'r' => some '\r'
  | 't' => some '\t'
  | _ => none

def scanEscape (text : List Char) : Except Fault (Char × Nat) :=
  match text with
  | 'u' :: '\x7b' :: rest =>
      match scanBracedEscape rest with
      | some escape => .ok escape
      | none =>
          .error (.invalidUnicodeEscape ("\\" ++ takePoints (2 + bracedEscapeExtent rest) text))
  | 'u' :: rest =>
      match scanFixedEscape rest with
      | some escape => .ok escape
      | none => .error (.invalidUnicodeEscape ("\\" ++ takePoints 5 text))
  | _ =>
      match text.head?.bind simpleEscape? with
      | some character => .ok (character, 2)
      | none => .error (.invalidEscape ("\\" ++ takePoints 1 text))

/--
The text of a string up to its closing quote, and the offset behind the quote. The second number
counts characters that an escape has used up.
-/
def scanStringBody : Nat → Nat → List Char → Except TokenFault (List Char × Nat)
  | offset, _, [] => .error { fault := .unterminatedString, offset }
  | offset, used + 1, _ :: rest => scanStringBody (offset + 1) used rest
  | offset, 0, '\uffff' :: second :: rest => do
      let point := Text.marked second
      if point.isSurrogate then throw { fault := .invalidStringCharacter point, offset }
      let (text, stop) ← scanStringBody (offset + 2) 0 rest
      pure (point.held ++ text, stop)
  | offset, 0, character :: rest =>
      if character == '"' then .ok ([], offset + 1)
      else if Text.isLineEnd character then .error { fault := .unterminatedString, offset }
      else if character == '\\' then
        match scanEscape rest with
        | .error fault => .error { fault, offset }
        | .ok (meant, width) => do
            let (text, stop) ← scanStringBody (offset + 1) (width - 1) rest
            pure ((CodePoint.character meant).held ++ text, stop)
      else do
        let (text, stop) ← scanStringBody (offset + 1) 0 rest
        pure (character :: text, stop)

def scanBlockBody : Nat → List Char → Except TokenFault (List Char × Nat)
  | offset, '"' :: '"' :: '"' :: _ => .ok ([], offset + 3)
  | offset, '\\' :: '"' :: '"' :: '"' :: rest => do
      let (raw, stop) ← scanBlockBody (offset + 4) rest
      pure ('"' :: '"' :: '"' :: raw, stop)
  | offset, '\uffff' :: second :: rest => do
      let point := Text.marked second
      if point.isSurrogate then throw { fault := .invalidStringCharacter point, offset }
      let (raw, stop) ← scanBlockBody (offset + 2) rest
      pure (point.held ++ raw, stop)
  | offset, character :: rest => do
      let (raw, stop) ← scanBlockBody (offset + 1) rest
      pure (character :: raw, stop)
  | offset, [] => .error { fault := .unterminatedString, offset }

/-! ### Tokens -/

def scanLexeme (first : Char) (rest : List Char) : Except TokenFault Lexeme :=
  if isIgnored first then .ok { token := none, width := 1 }
  else if first == '#' then .ok { token := none, width := 1 + commentWidth rest }
  else
    match Punctuator.ofChar? first with
    | some punctuator => .ok { token := some (.punctuator punctuator), width := 1 }
    | none =>
        if first.isDigit || first == '-' then scanNumber (first :: rest)
        else if isNameStart first then
          let name := first :: rest.takeWhile isNamePart
          .ok { token := some (.name (String.ofList name)), width := name.length }
        else
          match first, rest with
          | '.', '.' :: '.' :: _ => .ok { token := some (.punctuator .spread), width := 3 }
          | '"', '"' :: '"' :: body => do
              let (raw, stop) ← scanBlockBody 3 body
              let text := String.ofList (BlockString.value raw)
              pure { token := some (.string { text, isBlock := true }), width := stop }
          | '"', body => do
              let (text, stop) ← scanStringBody 1 0 body
              let text := String.ofList text
              pure { token := some (.string { text, isBlock := false }), width := stop }
          | '\'', _ => .error { fault := .singleQuote, offset := 0 }
          | '\uffff', second :: _ =>
              let point := Text.marked second
              if point.isSurrogate then .error { fault := .invalidCharacter point, offset := 0 }
              else .error { fault := .unexpectedCharacter point, offset := 0 }
          | _, _ => .error { fault := .unexpectedCharacter (.character first), offset := 0 }

/--
The tokens of a text that starts at some position. The second number counts characters that still
belong to the lexeme before.
-/
def tokensFrom : Nat → Nat → List Char → TokenStream
  | position, _, [] => .finish position
  | position, used + 1, _ :: rest => tokensFrom (position + 1) used rest
  | position, 0, first :: rest =>
      match scanLexeme first rest with
      | .error { fault, offset } => .fault { fault, position := position + offset }
      | .ok { token, width } =>
          let following := tokensFrom (position + 1) (width - 1) rest
          match token with
          | none => following
          | some token => .token token position following

def tokens (text : String) : TokenStream :=
  tokensFrom 0 0 text.toList

end FederationSplit.Syntax
