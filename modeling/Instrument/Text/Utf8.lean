/-
# UTF-8

`encode` gives the octets of a text and `decode` the text of octets.  Decoding goes octet by octet
and remembers only the character begun, if any.  Octets that are no UTF-8 are replaced: one U+FFFD
stands for the longest run of them that starts a character and cannot go on, or for one octet that
starts none.
-/

namespace Instrument.Text

/-- The octets of a text. -/
def encode (cs : List Char) : List UInt8 := cs.flatMap String.utf8EncodeChar

/-- What stands for octets that are no character. -/
def replacement : Char := '\uFFFD'

/-- Where decoding stands between octets: between characters, or in one that still owes `owed + 1`
octets, the next of them from `low` to `high`, with `bits` read so far. -/
inductive Utf8State
  | start
  | inside (owed : Nat) (low high : UInt8) (bits : Nat)
  deriving DecidableEq, Repr

/-- An octet between characters: the characters it completes and the state after it. -/
def firstOctet (b : UInt8) : List Char × Utf8State :=
  if b < 0x80 then ([Char.ofNat b.toNat], .start)
  else if b < 0xC2 then ([replacement], .start)
  else if b < 0xE0 then ([], .inside 0 0x80 0xBF (b.toNat % 0x20))
  else if b = 0xE0 then ([], .inside 1 0xA0 0xBF 0)
  else if b = 0xED then ([], .inside 1 0x80 0x9F 0xD)
  else if b < 0xF0 then ([], .inside 1 0x80 0xBF (b.toNat % 0x10))
  else if b = 0xF0 then ([], .inside 2 0x90 0xBF 0)
  else if b < 0xF4 then ([], .inside 2 0x80 0xBF (b.toNat % 0x08))
  else if b = 0xF4 then ([], .inside 2 0x80 0x8F 4)
  else ([replacement], .start)

/-- One octet: the characters it completes and the state after it. -/
def nextOctet : Utf8State → UInt8 → List Char × Utf8State
  | .start, b => firstOctet b
  | .inside owed low high bits, b =>
    if low ≤ b && b ≤ high then
      let bits := bits * 0x40 + b.toNat % 0x40
      match owed with
      | 0 => ([Char.ofNat bits], .start)
      | owed + 1 => ([], .inside owed 0x80 0xBF bits)
    else
      let (cs, state) := firstOctet b
      (replacement :: cs, state)

/-- The text of octets from a state on. -/
def decodeFrom : Utf8State → List UInt8 → List Char
  | .start, [] => []
  | .inside .., [] => [replacement]
  | state, b :: rest =>
    let (cs, state) := nextOctet state b
    cs ++ decodeFrom state rest

/-- The text of octets, with replacements. -/
def decode (bs : List UInt8) : List Char := decodeFrom .start bs

end Instrument.Text
