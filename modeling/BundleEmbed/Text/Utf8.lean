/-!
Reading characters from bytes in UTF-8, strictly.

A character is written by one byte or by a leading byte and one to three more, which
are bounded: no character has two writings, and surrogates have none. Bytes that cannot
go on are refused together with the bytes of the character that they leave incomplete.
-/

namespace BundleEmbed.Utf8

/-- What is wrong with bytes. -/
inductive Reason where
  | invalidStart
  | invalidContinuation
  | unexpectedEnd
  deriving DecidableEq, Repr

/-- The wording of a reason. -/
def Reason.message : Reason → String
  | .invalidStart => "invalid start byte"
  | .invalidContinuation => "invalid continuation byte"
  | .unexpectedEnd => "unexpected end of data"

/-- Bytes that are refused: from `first` on, `count` of them, the first of which is
`lead`. -/
structure Fault where
  reason : Reason
  first : Nat
  count : Nat
  lead : UInt8
  deriving DecidableEq, Repr

/-- The two digits of a byte in base sixteen. -/
def byteText (byte : UInt8) : String :=
  String.ofList [Nat.digitChar (byte.toNat / 16), Nat.digitChar (byte.toNat % 16)]

/-- The wording of a fault. -/
def Fault.message (fault : Fault) : String :=
  let subject :=
    if fault.count = 1 then
      "byte 0x" ++ byteText fault.lead ++ " in position " ++ toString fault.first
    else
      "bytes in position " ++ toString fault.first ++ "-" ++
        toString (fault.first + fault.count - 1)
  "'utf-8' codec can't decode " ++ subject ++ ": " ++ fault.reason.message

/-- A character of which some bytes have been read. -/
structure Pending where
  /-- the position of its leading byte -/
  start : Nat
  lead : UInt8
  /-- the number of bytes that have to follow -/
  owed : Nat
  /-- the least and the greatest byte that may come next -/
  low : Nat
  high : Nat
  /-- the code point as far as it is known -/
  value : Nat
  deriving DecidableEq, Repr

/-- What a leading byte of several promises. -/
def leading? (start : Nat) (lead : UInt8) : Option Pending :=
  let b := lead.toNat
  if b < 0xc2 then none
  else if b < 0xe0 then some ⟨start, lead, 1, 0x80, 0xbf, b - 0xc0⟩
  else if b < 0xf0 then
    let low := if b = 0xe0 then 0xa0 else 0x80
    let high := if b = 0xed then 0x9f else 0xbf
    some ⟨start, lead, 2, low, high, b - 0xe0⟩
  else if b < 0xf5 then
    let low := if b = 0xf0 then 0x90 else 0x80
    let high := if b = 0xf4 then 0x8f else 0xbf
    some ⟨start, lead, 3, low, high, b - 0xf0⟩
  else none

/-- The characters of bytes, of which the first stands at `position`. -/
def decodeFrom : Option Pending → Nat → List UInt8 → Except Fault (List Char)
  | none, _, [] => .ok []
  | some pending, position, [] =>
      .error ⟨.unexpectedEnd, pending.start, position - pending.start, pending.lead⟩
  | none, position, byte :: rest =>
      if byte < 0x80 then do
        let later ← decodeFrom none (position + 1) rest
        return Char.ofNat byte.toNat :: later
      else
        match leading? position byte with
        | none => .error ⟨.invalidStart, position, 1, byte⟩
        | some pending => decodeFrom (some pending) (position + 1) rest
  | some pending, position, byte :: rest =>
      if byte.toNat < pending.low ∨ pending.high < byte.toNat then
        .error ⟨.invalidContinuation, pending.start, position - pending.start, pending.lead⟩
      else
        let value := pending.value * 64 + (byte.toNat - 0x80)
        if pending.owed ≤ 1 then do
          let later ← decodeFrom none (position + 1) rest
          return Char.ofNat value :: later
        else
          let pending := { pending with owed := pending.owed - 1, low := 0x80, high := 0xbf, value }
          decodeFrom (some pending) (position + 1) rest

/-- The characters of bytes. -/
def decode (bytes : List UInt8) : Except Fault (List Char) := decodeFrom none 0 bytes

end BundleEmbed.Utf8

namespace BundleEmbed

/-- The text with one line feed at the end of each line, whether it ended in a carriage
return, a line feed or both. -/
def unifyLineEnds : List Char → List Char
  | '\r' :: '\n' :: rest => '\n' :: unifyLineEnds rest
  | '\r' :: rest => '\n' :: unifyLineEnds rest
  | c :: rest => c :: unifyLineEnds rest
  | [] => []

end BundleEmbed
