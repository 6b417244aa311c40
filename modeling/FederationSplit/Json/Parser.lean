import FederationSplit.Json.Value
import FederationSplit.Text.CodePoint

namespace FederationSplit.Json

open FederationSplit.Text (CodePoint)

/-- A reader takes a text and gives back a result with the rest, unless the text is malformed. -/
abbrev Reader (α : Type) := List Char → Option (α × List Char)

namespace Reader

def isSpace (character : Char) : Bool :=
  character == ' ' || character == '\t' || character == '\n' || character == '\r'

def skipSpaces (text : List Char) : List Char :=
  text.dropWhile isSpace

def behind? (expected text : List Char) : Option (List Char) :=
  if expected.isPrefixOf text then some (text.drop expected.length) else none

def hexDigit? (character : Char) : Option Nat :=
  if character.isDigit then some (character.toNat - '0'.toNat)
  else if 'a' ≤ character ∧ character ≤ 'f' then some (character.toNat - 'a'.toNat + 10)
  else if 'A' ≤ character ∧ character ≤ 'F' then some (character.toNat - 'A'.toNat + 10)
  else none

def codeUnit? (text : List Char) : Option Nat :=
  let digits := text.take 4
  if digits.length < 4 then none
  else digits.foldlM (fun number digit => (hexDigit? digit).map (16 * number + ·)) 0

def codePoint (unit : Nat) (following : List Char) : CodePoint × Nat :=
  let pair : Option Nat :=
    match following with
    | '\\' :: 'u' :: rest =>
        (codeUnit? rest).bind fun low =>
          if 0xD800 ≤ unit && unit < 0xDC00 && 0xDC00 ≤ low && low < 0xE000 then
            some (0x10000 + (unit - 0xD800) * 0x400 + (low - 0xDC00))
          else none
    | _ => none
  match pair with
  | some number => (.ofNat number, 6)
  | none => (.ofNat unit, 0)

def simpleEscape? : Char → Option Char
  | '"' => some '"'
  | '\\' => some '\\'
  | '/' => some '/'
  | 'b' => some '\x08'
  | 'f' => some '\x0c'
  | 'n' => some '\n'
  | 'r' => some '\r'
  | 't' => some '\t'
  | _ => none

def escape? : List Char → Option (CodePoint × Nat)
  | 'u' :: rest => do
      let unit ← codeUnit? rest
      let (point, more) := codePoint unit (rest.drop 4)
      pure (point, 5 + more)
  | character :: _ => (simpleEscape? character).map fun meant => (.character meant, 1)
  | [] => none

/-- The text of a string up to its closing quote. The number counts characters used already. -/
def stringBody : Nat → Reader (List Char)
  | _, [] => none
  | used + 1, _ :: rest => stringBody used rest
  | 0, character :: rest =>
      if character == '"' then some ([], rest)
      else if character.toNat < 0x20 then none
      else if character == '\\' then do
        let (meant, width) ← escape? rest
        let (text, rest) ← stringBody width rest
        pure (meant.held ++ text, rest)
      else do
        let (text, rest) ← stringBody 0 rest
        pure (character :: text, rest)

def digitsValue (digits : List Char) : Nat :=
  digits.foldl (fun number digit => 10 * number + (digit.toNat - '0'.toNat)) 0

def splitDigits (text : List Char) : List Char × List Char :=
  (text.takeWhile Char.isDigit, text.dropWhile Char.isDigit)

def fraction : List Char → List Char × List Char
  | '.' :: rest =>
      let (digits, following) := splitDigits rest
      if digits.isEmpty then ([], '.' :: rest) else (digits, following)
  | text => ([], text)

def exponent (text : List Char) : Option Int × List Char :=
  match text with
  | mark :: rest =>
      if mark == 'e' || mark == 'E' then
        let (isNegative, unsigned) :=
          match rest with
          | '-' :: unsigned => (true, unsigned)
          | '+' :: unsigned => (false, unsigned)
          | unsigned => (false, unsigned)
        let (digits, following) := splitDigits unsigned
        if digits.isEmpty then (none, text)
        else
          let value : Int := digitsValue digits
          (some (if isNegative then -value else value), following)
      else (none, text)
  | [] => (none, [])

/-- A number without its sign. An integer may have at most 4300 digits. -/
def unsignedNumber (isNegative : Bool) : Reader Json := fun text => do
  let (whole, rest) :=
    match text with
    | '0' :: rest => (['0'], rest)
    | text => splitDigits text
  if whole.isEmpty then none
  let (places, rest) := fraction rest
  let (power, rest) := exponent rest
  if places.isEmpty && power.isNone then
    if whole.length > 4300 then none
    let value : Int := digitsValue whole
    pure (.integer (if isNegative then -value else value), rest)
  else
    let scale : Int := power.getD 0 - places.length
    pure (.real (Real.ofDecimal isNegative (digitsValue (whole ++ places)) scale), rest)

/--
Words, and the values they stand for. Those for numbers that are not finite are no standard JSON.
-/
def words : List (String × Json) :=
  [("null", .null), ("true", .boolean true), ("false", .boolean false),
    ("NaN", .real .undefined), ("Infinity", .real (.infinite false)),
    ("-Infinity", .real (.infinite true))]

def word : Reader Json := fun text =>
  words.findSome? fun (written, value) =>
    (behind? written.toList text).map (value, ·)

/-- Items separated by commas up to a closing character, with a bound on their number. -/
def itemsUntil (close : Char) (item : Reader α) : Nat → Reader (List α)
  | 0, _ => none
  | bound + 1, text => do
      let (first, rest) ← item (skipSpaces text)
      match skipSpaces rest with
      | ',' :: rest => do
          let (items, rest) ← itemsUntil close item bound rest
          pure (first :: items, rest)
      | character :: rest => if character == close then pure ([first], rest) else none
      | [] => none

def enclosed (close : Char) (item : Reader α) : Reader (List α) := fun text =>
  match skipSpaces text with
  | character :: rest =>
      if character == close then some ([], rest)
      else itemsUntil close item text.length (character :: rest)
  | [] => none

def valueWithin : Nat → Reader Json
  | 0, _ => none
  | depth + 1, text =>
      match text with
      | '"' :: rest => do
          let (characters, rest) ← stringBody 0 rest
          pure (.string (String.ofList characters), rest)
      | '[' :: rest => do
          let (items, rest) ← enclosed ']' (valueWithin depth) rest
          pure (.array items, rest)
      | '\x7b' :: rest => do
          let member : Reader (String × Json) := fun text => do
            let (key, rest) ← stringBody 0 (← behind? ['"'] text)
            let rest ← behind? [':'] (skipSpaces rest)
            let (value, rest) ← valueWithin depth (skipSpaces rest)
            pure ((String.ofList key, value), rest)
          let (members, rest) ← enclosed '\x7d' member rest
          let set := members.foldl (fun set (key, value) => setMember key value set) []
          pure (.object set, rest)
      | _ =>
          match word text with
          | some result => some result
          | none =>
              match text with
              | '-' :: rest => unsignedNumber true rest
              | _ => unsignedNumber false text

end Reader

def parse? (text : String) : Option Json := do
  let characters := Reader.skipSpaces text.toList
  let (value, rest) ← Reader.valueWithin characters.length characters
  if (Reader.skipSpaces rest).isEmpty then pure value else none

end FederationSplit.Json
