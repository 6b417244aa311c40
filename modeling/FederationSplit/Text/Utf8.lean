import FederationSplit.Text.CodePoint

namespace FederationSplit.Text.Utf8

def encodePoint? : CodePoint → Option (List UInt8)
  | .character value => some (String.utf8EncodeChar value)
  | .surrogate _ => none

/-- The bytes of a text, which has none if it holds half of a surrogate pair. -/
def encode? (text : String) : Option (List UInt8) :=
  ((codePoints text.toList).mapM encodePoint?).map List.flatten

inductive Reason where
  | invalidStart
  | invalidContinuation
  | unexpectedEnd
  deriving DecidableEq, Repr

structure Fault where
  start : Nat
  stop : Nat
  byte : UInt8
  reason : Reason
  deriving DecidableEq, Repr

structure ByteRange where
  low : UInt8
  high : UInt8
  deriving DecidableEq, Repr

def ByteRange.contains (range : ByteRange) (byte : UInt8) : Bool :=
  range.low ≤ byte && byte ≤ range.high

def continuationRange : ByteRange where
  low := 0x80
  high := 0xBF

/--
The ranges of the bytes that follow the first byte of a character. Narrower ranges for the second
byte exclude longer forms than needed, surrogates and what lies beyond the last code point.
-/
def followingRanges? (first : UInt8) : Option (List ByteRange) :=
  if first < 0x80 then some []
  else if first < 0xC2 then none
  else if first < 0xE0 then some [continuationRange]
  else if first < 0xF0 then
    let second : ByteRange :=
      if first = 0xE0 then { low := 0xA0, high := 0xBF }
      else if first = 0xED then { low := 0x80, high := 0x9F }
      else continuationRange
    some [second, continuationRange]
  else if first < 0xF5 then
    let second : ByteRange :=
      if first = 0xF0 then { low := 0x90, high := 0xBF }
      else if first = 0xF4 then { low := 0x80, high := 0x8F }
      else continuationRange
    some [second, continuationRange, continuationRange]
  else none

def leadingBits (first : UInt8) : Nat :=
  if first < 0x80 then first.toNat
  else if first < 0xE0 then first.toNat % 0x20
  else if first < 0xF0 then first.toNat % 0x10
  else first.toNat % 0x08

/--
A reader in the midst of some bytes, with the ranges in which those that are awaited have to lie.
The characters read so far stand in reverse.
-/
structure Reader where
  position : Nat
  read : List Char
  first : UInt8
  size : Nat
  codePoint : Nat
  awaited : List ByteRange
  deriving Repr

namespace Reader

def start : Reader where
  position := 0
  read := []
  first := 0
  size := 0
  codePoint := 0
  awaited := []

def advance (reader : Reader) (codePoint : Nat) (awaited : List ByteRange) : Reader :=
  { reader with
    position := reader.position + 1
    size := reader.size + 1
    codePoint
    awaited
    read := if awaited.isEmpty then Char.ofNat codePoint :: reader.read else reader.read }

def fault (reader : Reader) (reason : Reason) : Fault where
  start := reader.position - reader.size
  stop := reader.position
  byte := reader.first
  reason := reason

def step (reader : Reader) (byte : UInt8) : Except Fault Reader :=
  match reader.awaited with
  | [] =>
      match followingRanges? byte with
      | none =>
          .error
            { start := reader.position, stop := reader.position + 1, byte
              reason := .invalidStart }
      | some ranges =>
          .ok ({ reader with first := byte, size := 0 }.advance (leadingBits byte) ranges)
  | range :: ranges =>
      if range.contains byte then
        .ok (reader.advance (reader.codePoint * 0x40 + byte.toNat % 0x40) ranges)
      else .error (reader.fault .invalidContinuation)

def finish (reader : Reader) : Except Fault (List Char) :=
  if reader.awaited.isEmpty then .ok reader.read.reverse
  else .error (reader.fault .unexpectedEnd)

end Reader

def decode (bytes : List UInt8) : Except Fault String := do
  let reader ← bytes.foldlM Reader.step Reader.start
  pure (ofPlain (String.ofList (← reader.finish)))

def Reason.message : Reason → String
  | .invalidStart => "invalid start byte"
  | .invalidContinuation => "invalid continuation byte"
  | .unexpectedEnd => "unexpected end of data"

def hexadecimal (byte : UInt8) : String :=
  String.ofList [Nat.digitChar (byte.toNat / 16), Nat.digitChar (byte.toNat % 16)]

def Fault.message (fault : Fault) : String :=
  let place :=
    if fault.stop = fault.start + 1 then
      let digits := hexadecimal fault.byte
      s!"byte 0x{digits} in position {fault.start}"
    else
      let last := fault.stop - 1
      s!"bytes in position {fault.start}-{last}"
  s!"'utf-8' codec can't decode {place}: " ++ fault.reason.message

end FederationSplit.Text.Utf8
