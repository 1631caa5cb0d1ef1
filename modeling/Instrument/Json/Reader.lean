/-
# Reading JSON

`Json.read` takes a text to the value it holds, or to the first fault met from left to right.
Values may be nested up to 127 deep.

A number without point and exponent is an integer as far as it fits 64 bits, signed below zero and
unsigned above; `-0` and every other number are real.  The value of a real is computed from its
first digits, as many as fit 64 bits, and a power of ten, each a binary64 number: with up to 2^53
and powers up to `10^22` that is the nearest number, beyond it may be off in the last place.
-/
import Instrument.Json.Basic

namespace Instrument.Json

open Number

/-- Why a text is no JSON. -/
inductive SyntaxFault
  | eofInList
  | eofInObject
  | eofInText
  | eofInValue
  | expectedColon
  | expectedListCommaOrEnd
  | expectedObjectCommaOrEnd
  | expectedIdent
  | expectedValue
  | invalidEscape
  | invalidNumber
  | numberOutOfRange
  | controlCharacter
  | keyMustBeText
  | loneSurrogate
  | endOfHexEscape
  | trailingComma
  | trailingCharacters
  | recursionLimit
  deriving DecidableEq, Repr

/-- The wording of a syntax fault. -/
def SyntaxFault.message : SyntaxFault → String
  | .eofInList => "EOF while parsing a list"
  | .eofInObject => "EOF while parsing an object"
  | .eofInText => "EOF while parsing a string"
  | .eofInValue => "EOF while parsing a value"
  | .expectedColon => "expected `:`"
  | .expectedListCommaOrEnd => "expected `,` or `]`"
  | .expectedObjectCommaOrEnd => "expected `,` or `\x7d`"
  | .expectedIdent => "expected ident"
  | .expectedValue => "expected value"
  | .invalidEscape => "invalid escape"
  | .invalidNumber => "invalid number"
  | .numberOutOfRange => "number out of range"
  | .controlCharacter => "control character (\\u0000-\\u001F) found while parsing a string"
  | .keyMustBeText => "key must be a string"
  | .loneSurrogate => "lone leading surrogate in hex escape"
  | .endOfHexEscape => "unexpected end of hex escape"
  | .trailingComma => "trailing comma"
  | .trailingCharacters => "trailing characters"
  | .recursionLimit => "recursion limit exceeded"

/-- A value read and the text after it. -/
abbrev Read (α : Type) := Except SyntaxFault (α × List Char)

/-- The four blanks of the format. -/
def isSpace (c : Char) : Bool := c = ' ' || c = '\n' || c = '\t' || c = '\r'

/-- The text from its first character that is no blank on. -/
def skipSpace (cs : List Char) : List Char := cs.dropWhile isSpace

/-! ## Words and texts -/

/-- The rest of a word that stands for a value. -/
def readWord (value : Json) : List Char → List Char → Read Json
  | [], cs => .ok (value, cs)
  | _ :: _, [] => .error .eofInValue
  | w :: ws, c :: cs => if c = w then readWord value ws cs else .error .expectedIdent

/-- The value of a hexadecimal digit. -/
def hexValue? (c : Char) : Option Nat :=
  if '0' ≤ c && c ≤ '9' then some (c.toNat - '0'.toNat)
  else if 'a' ≤ c && c ≤ 'f' then some (c.toNat - 'a'.toNat + 10)
  else if 'A' ≤ c && c ≤ 'F' then some (c.toNat - 'A'.toNat + 10)
  else none

/-- Four hexadecimal digits. -/
def readHex : List Char → Read Nat
  | a :: b :: c :: d :: rest =>
    match hexValue? a, hexValue? b, hexValue? c, hexValue? d with
    | some a, some b, some c, some d => .ok (((a * 16 + b) * 16 + c) * 16 + d, rest)
    | _, _, _, _ => .error .invalidEscape
  | _ => .error .eofInText

/-- Is `n` in the first half of a surrogate pair? -/
def isLeading (n : Nat) : Bool := 0xD800 ≤ n && n ≤ 0xDBFF

/-- Is `n` in the second half of a surrogate pair? -/
def isTrailing (n : Nat) : Bool := 0xDC00 ≤ n && n ≤ 0xDFFF

/-- The character of a hexadecimal escape, after its `u`; surrogates come in pairs. -/
def readUnicode (cs : List Char) : Read Char :=
  match readHex cs with
  | .error e => .error e
  | .ok (n, rest) =>
    if isTrailing n then .error .loneSurrogate
    else if isLeading n then
      match rest with
      | '\\' :: 'u' :: rest =>
        match readHex rest with
        | .error e => .error e
        | .ok (m, rest) =>
          if isTrailing m then
            .ok (Char.ofNat ((n - 0xD800) * 0x400 + (m - 0xDC00) + 0x10000), rest)
          else .error .loneSurrogate
      | [] => .error .eofInText
      | ['\\'] => .error .eofInText
      | _ => .error .endOfHexEscape
    else .ok (Char.ofNat n, rest)

/-- The character of an escape, after its backslash. -/
def readEscape : List Char → Read Char
  | [] => .error .eofInText
  | '"' :: rest => .ok ('"', rest)
  | '\\' :: rest => .ok ('\\', rest)
  | '/' :: rest => .ok ('/', rest)
  | 'b' :: rest => .ok ('\x08', rest)
  | 'f' :: rest => .ok ('\x0c', rest)
  | 'n' :: rest => .ok ('\n', rest)
  | 'r' :: rest => .ok ('\r', rest)
  | 't' :: rest => .ok ('\t', rest)
  | 'u' :: rest => readUnicode rest
  | _ => .error .invalidEscape

/-- The characters of a text, after its opening quotation mark; at most `fuel` of them, newest first
in `acc`. -/
def readChars : Nat → List Char → List Char → Read String
  | 0, _, _ => .error .eofInText
  | _ + 1, _, [] => .error .eofInText
  | fuel + 1, acc, c :: rest =>
    if c = '"' then .ok (String.ofList acc.reverse, rest)
    else if c = '\\' then
      match readEscape rest with
      | .ok (e, rest) => readChars fuel (e :: acc) rest
      | .error e => .error e
    else if c.toNat < 0x20 then .error .controlCharacter
    else readChars fuel (c :: acc) rest

/-- A text after its opening quotation mark. -/
def readText (cs : List Char) : Read String := readChars (cs.length + 1) [] cs

/-! ## Numbers -/

/-- The powers of ten that are used as they are go up to this exponent. -/
def greatestPower : Nat := 308

/-- `10^n` as the nearest number. -/
def powerOfTen (n : Nat) : Float := floatOfWord (Binary.double.nearest (Nat.pow 10 n) 1)

/-- A significand times a power of ten; large negative exponents go down in steps. -/
def scaleReal : Nat → Float → Int → Except SyntaxFault Float
  | 0, x, _ => .ok x
  | fuel + 1, x, e =>
    if e.natAbs ≤ greatestPower then
      if 0 ≤ e then
        let y := x * powerOfTen e.natAbs
        if y.isInf then .error .numberOutOfRange else .ok y
      else .ok (x / powerOfTen e.natAbs)
    else if x == 0 then .ok x
    else if 0 ≤ e then .error .numberOutOfRange
    else scaleReal fuel (x / powerOfTen greatestPower) (e + greatestPower)

/-- The real number with a significand and a power of ten.  Eight steps down take any significand to
zero. -/
def realOf (negative : Bool) (significand : Nat) (e : Int) : Except SyntaxFault Json :=
  (scaleReal 8 (Float.ofNat significand) e).map fun x => .real (if negative then -x else x)

/-- The largest significand. -/
def greatestSignificand : Nat := Nat.pow 2 64 - 1

/-- The largest exponent that is read as a number. -/
def greatestExponent : Nat := Nat.pow 2 31 - 1

/-- As many leading digits as keep the significand in range, the rest of the digits, and the text
after them. -/
def takeDigits : Nat → List Char → Nat × List Char
  | n, [] => (n, [])
  | n, c :: rest =>
    match Digits.digit? c with
    | some d =>
      if greatestSignificand < n * 10 + d then (n, c :: rest) else takeDigits (n * 10 + d) rest
    | none => (n, c :: rest)

/-- The exponent of a number, after its `e`. -/
def readExponent (negative : Bool) (significand : Nat) (e : Int) (cs : List Char) : Read Json :=
  let (down, cs) := match cs with
    | '+' :: rest => (false, rest)
    | '-' :: rest => (true, rest)
    | cs => (false, cs)
  match cs with
  | [] => .error .eofInValue
  | c :: _ =>
    if !Digits.isDigit c then .error .invalidNumber
    else
      let (ds, rest) := Digits.span cs
      let n := Digits.value ds
      if greatestExponent < n then
        if significand ≠ 0 ∧ ¬ down then .error .numberOutOfRange
        else .ok (.real (if negative then -0.0 else 0.0), rest)
      else (realOf negative significand (if down then e - n else e + n)).map (·, rest)

/-- What follows the digits of a number: an exponent or its end. -/
def finishReal (negative : Bool) (significand : Nat) (e : Int) (cs : List Char) : Read Json :=
  match cs with
  | 'e' :: rest => readExponent negative significand e rest
  | 'E' :: rest => readExponent negative significand e rest
  | cs => (realOf negative significand e).map (·, cs)

/-- The places of a number, after its point. -/
def readPlaces (negative : Bool) (significand : Nat) (e : Int) (cs : List Char) : Read Json :=
  match cs with
  | [] => .error .eofInValue
  | c :: _ =>
    if !Digits.isDigit c then .error .invalidNumber
    else
      let (significand, rest) := takeDigits significand cs
      let used := cs.length - rest.length
      finishReal negative significand (e - used) (rest.dropWhile Digits.isDigit)

/-- A number, after its sign. -/
def readNumber (negative : Bool) (cs : List Char) : Read Json :=
  match cs with
  | [] => .error .eofInValue
  | c :: after =>
    if !Digits.isDigit c then .error .invalidNumber
    else if c = '0' && (after.head?.map Digits.isDigit).getD false then .error .invalidNumber
    else
      let (significand, rest) := takeDigits 0 cs
      let (excess, rest) := Digits.span rest
      match rest with
      | '.' :: more => readPlaces negative significand excess.length more
      | 'e' :: more => readExponent negative significand excess.length more
      | 'E' :: more => readExponent negative significand excess.length more
      | rest =>
        if !excess.isEmpty then (realOf negative significand excess.length).map (·, rest)
        else if !negative then .ok (.integer significand, rest)
        else if significand = 0 ∨ Nat.pow 2 63 < significand then
          (realOf true significand 0).map (·, rest)
        else .ok (.integer (-(significand : Int)), rest)

/-! ## Values -/

/-- How deep values may be nested, the outermost counted. -/
def nestingLimit : Nat := 128

mutual

/-- A value and the text after it.  `depth` levels may still be opened; every call takes one off
`fuel`, of which there is enough for the length of the text. -/
def readValue (fuel depth : Nat) (cs : List Char) : Read Json :=
  match fuel with
  | 0 => .error .eofInValue
  | fuel + 1 =>
    match skipSpace cs with
    | [] => .error .eofInValue
    | 'n' :: rest => readWord .null "ull".toList rest
    | 't' :: rest => readWord (.bool true) "rue".toList rest
    | 'f' :: rest => readWord (.bool false) "alse".toList rest
    | '-' :: rest => readNumber true rest
    | '"' :: rest => (readText rest).map fun (s, rest) => (.text s, rest)
    | '[' :: rest =>
      if depth ≤ 1 then .error .recursionLimit
      else
        match skipSpace rest with
        | [] => .error .eofInList
        | ']' :: rest => .ok (.array [], rest)
        | rest => readItems fuel (depth - 1) [] rest
    | '\x7b' :: rest =>
      if depth ≤ 1 then .error .recursionLimit
      else
        match skipSpace rest with
        | [] => .error .eofInObject
        | '\x7d' :: rest => .ok (.object [], rest)
        | rest => readMembers fuel (depth - 1) [] rest
    | c :: rest =>
      if Digits.isDigit c then readNumber false (c :: rest) else .error .expectedValue

/-- The items of an array from one of them on; those before it are in `acc`, newest first. -/
def readItems (fuel depth : Nat) (acc : List Json) (cs : List Char) : Read Json :=
  match fuel with
  | 0 => .error .eofInList
  | fuel + 1 =>
    match readValue fuel depth cs with
    | .error e => .error e
    | .ok (v, rest) =>
      match skipSpace rest with
      | [] => .error .eofInList
      | ']' :: rest => .ok (.array (v :: acc).reverse, rest)
      | ',' :: rest =>
        match skipSpace rest with
        | [] => .error .eofInValue
        | ']' :: _ => .error .trailingComma
        | rest => readItems fuel depth (v :: acc) rest
      | _ => .error .expectedListCommaOrEnd

/-- The members of an object from one of them on; those before it are in `acc`, in order. -/
def readMembers (fuel depth : Nat) (acc : List (String × Json)) (cs : List Char) : Read Json :=
  match fuel with
  | 0 => .error .eofInObject
  | fuel + 1 =>
    match cs with
    | '"' :: rest =>
      match readText rest with
      | .error e => .error e
      | .ok (name, rest) =>
        match skipSpace rest with
        | [] => .error .eofInObject
        | ':' :: rest =>
          match readValue fuel depth rest with
          | .error e => .error e
          | .ok (v, rest) =>
            match skipSpace rest with
            | [] => .error .eofInObject
            | '\x7d' :: rest => .ok (.object (insert name v acc), rest)
            | ',' :: rest =>
              match skipSpace rest with
              | [] => .error .eofInValue
              | '\x7d' :: _ => .error .trailingComma
              | rest => readMembers fuel depth (insert name v acc) rest
            | _ => .error .expectedObjectCommaOrEnd
        | _ => .error .expectedColon
    | _ => .error .keyMustBeText

end

/-- Reads a text that holds one value and blanks. -/
def read (s : String) : Except SyntaxFault Json :=
  let cs := s.toList
  match readValue (2 * cs.length + 2) nestingLimit cs with
  | .error e => .error e
  | .ok (v, rest) => if (skipSpace rest).isEmpty then .ok v else .error .trailingCharacters

end Instrument.Json
