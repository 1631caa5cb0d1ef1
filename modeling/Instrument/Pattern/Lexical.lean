/-
# Pieces of pattern text

The smallest pieces of a pattern: blanks and comments where the mode lets them stand, numbers, and
what a backslash begins.
-/
import Instrument.Pattern.Basic
import Instrument.Pattern.Escape

namespace Instrument.Pattern

/-- How a part of a pattern is meant; each is switched by a flag. -/
structure Mode where
  /-- `i`: the case of letters does not count. -/
  ignoreCase : Bool
  /-- `m`: the ends of lines count as ends of the text. -/
  lines : Bool
  /-- `s`: a point matches the end of a line too. -/
  dotAll : Bool
  /-- `U`: repetitions are greedy only if they are marked. -/
  swapGreed : Bool
  /-- `u`: characters and classes are those of Unicode, not of ASCII. -/
  unicode : Bool
  /-- `R`: a carriage return also ends a line. -/
  mixedLines : Bool
  /-- `x`: blanks and comments do not count. -/
  loose : Bool
  deriving DecidableEq, Repr

/-- The mode for replies: lines count, and a point matches their ends. -/
def Mode.replies : Mode := ⟨false, true, true, false, true, false, false⟩

/-- Why a text is no pattern. -/
inductive PatternFault
  | unfinished
  | unknownEscape
  | backreference
  | lookaround
  | codePoint
  | unknownClass
  | wordEdge
  | bracketUnclosed
  | bracketRange
  | bracketItem
  | nothingToRepeat
  | repetitionUnclosed
  | repetitionCount
  | flag
  | groupName
  | groupUnclosed
  | groupUnopened
  | octets
  | nesting
  deriving DecidableEq, Repr

/-- The outcome of reading a piece of a pattern. -/
abbrev Reading := Except PatternFault

/-- The text after blanks and comments. -/
def skipLoose (comment : Bool) : List Char → List Char
  | [] => []
  | c :: rest =>
    if comment then skipLoose (c ≠ '\n') rest
    else if Text.isBlank c then skipLoose false rest
    else if c = '#' then skipLoose true rest
    else c :: rest

/-- The text after what does not count. -/
def skip (loose : Bool) (cs : List Char) : List Char := if loose then skipLoose false cs else cs

/-- Digits and the text after them. -/
def takeDigits (loose : Bool) : (fuel : Nat) → List Char → List Char × List Char
  | 0, cs => ([], cs)
  | _ + 1, [] => ([], [])
  | fuel + 1, c :: rest =>
    if '0' ≤ c && c ≤ '9' then
      let (digits, rest) := takeDigits loose fuel (skip loose rest)
      (c :: digits, rest)
    else ([], c :: rest)

/-- The greatest count of a repetition. -/
def greatestCount : Nat := Nat.pow 2 32 - 1

/-- A count, with blanks around it. -/
def readCount (loose : Bool) (cs : List Char) : Reading (Nat × List Char) :=
  let (digits, rest) := takeDigits loose cs.length (cs.dropWhile Text.isBlank)
  let n := digits.foldl (fun n c => n * 10 + (c.toNat - '0'.toNat)) 0
  if digits.isEmpty || greatestCount < n then .error .repetitionCount
  else .ok (n, rest.dropWhile Text.isBlank)

/-- The value of a hexadecimal digit. -/
def hexDigit? (c : Char) : Option Nat :=
  if '0' ≤ c && c ≤ '9' then some (c.toNat - '0'.toNat)
  else if 'a' ≤ c && c ≤ 'f' then some (c.toNat - 'a'.toNat + 10)
  else if 'A' ≤ c && c ≤ 'F' then some (c.toNat - 'A'.toNat + 10)
  else none

/-- As many hexadecimal digits as are asked for. -/
def readHexDigits (loose : Bool) : Nat → Nat → List Char → Reading (Nat × List Char)
  | 0, value, cs => .ok (value, cs)
  | _ + 1, _, [] => .error .unfinished
  | n + 1, value, c :: rest =>
    match hexDigit? c with
    | some d => readHexDigits loose n (value * 16 + d) (skip loose rest)
    | none => .error .codePoint

/-- The characters up to a closing brace and the text after it. -/
def readBraced (loose : Bool) : (fuel : Nat) → List Char → List Char → Reading ((List Char) × List Char)
  | 0, _, _ => .error .unfinished
  | fuel + 1, acc, cs =>
    match skip loose cs with
    | [] => .error .unfinished
    | '\x7d' :: rest => .ok (acc.reverse, rest)
    | c :: rest => readBraced loose fuel (c :: acc) rest

/-- The number that hexadecimal digits make up. -/
def hexNumber? (cs : List Char) : Option Nat :=
  if cs.isEmpty then none
  else cs.foldlM (fun n c => (hexDigit? c).map (n * 16 + ·)) 0

/-- The character of a code point. -/
def readCodePoint (n : Nat) : Reading Char :=
  if h : n.isValidChar then .ok (Char.ofNatAux n h) else .error .codePoint

/-- A code point in braces, or with a fixed count of digits. -/
def readHex (loose : Bool) (count : Nat) (cs : List Char) : Reading ((Char × Bool) × List Char) :=
  match skip loose cs with
  | '\x7b' :: rest => do
    let (digits, rest) ← readBraced loose (rest.length + 1) [] rest
    match hexNumber? digits with
    | some n => return ((← readCodePoint n, false), rest)
    | none => throw .codePoint
  | cs => do
    let (n, rest) ← readHexDigits loose count 0 cs
    return ((← readCodePoint n, count = 2), rest)

/-- What a backslash and the text after it stand for.  An octet is a character given by two digits
where a pattern speaks of octets. -/
inductive Escaped
  | literal (c : Char)
  | octet (c : Char)
  | set (s : CharSet)
  | look (l : Look)
  deriving Repr

/-- A set that case does not matter for, if the mode says so. -/
def Mode.fold (m : Mode) (s : CharSet) : CharSet :=
  if m.ignoreCase then (if m.unicode then .folded s else .foldedAscii s) else s

/-- A set or all characters outside of it. -/
def Mode.negate (m : Mode) (negated : Bool) (s : CharSet) : CharSet :=
  if negated then (if m.unicode then .outside s else .diff .octets s) else s

/-- The set of a letter: digits, blanks or word characters. -/
def Mode.letterSet (m : Mode) (c : Char) : CharSet :=
  match c.toLower with
  | 'd' => m.negate (c = 'D') (if m.unicode then .digit else .asciiDigit)
  | 's' => m.negate (c = 'S') (if m.unicode then .blank else .asciiBlank)
  | _ => m.negate (c = 'W') (if m.unicode then .word else .asciiWord)

/-- The parts of a text before and after the first occurrence of a mark of two characters. -/
def splitAtPair (a b : Char) : List Char → Option (List Char × List Char)
  | c :: d :: rest =>
    if c = a && d = b then some ([], rest)
    else (splitAtPair a b (d :: rest)).map fun (before, after) => (c :: before, after)
  | _ => none

/-- The parts of a text before and after the first occurrence of a character. -/
def splitAtChar (a : Char) (cs : List Char) : Option (List Char × List Char) :=
  if cs.contains a then some (cs.takeWhile (· ≠ a), (cs.dropWhile (· ≠ a)).drop 1) else none

/-- The class of a name in braces, and whether it is the characters outside of it. -/
def bracedClass? (name : List Char) : Option (Text.NamedClass × Bool) :=
  match splitAtPair '!' '=' name with
  | some (key, value) => (Text.keyedClass? key value).map (·, true)
  | none =>
    match (splitAtChar ':' name).or (splitAtChar '=' name) with
    | some (key, value) => (Text.keyedClass? key value).map (·, false)
    | none => (Text.namedClass? name).map (·, false)

/-- A class by its name in braces or by one letter. -/
def readNamedClass (m : Mode) (negated : Bool) (cs : List Char) : Reading (CharSet × List Char) := do
  let (name, rest) ← match skip m.loose cs with
    | [] => throw .unfinished
    | '\x7b' :: rest => readBraced m.loose (rest.length + 1) [] rest
    | c :: rest => if c = '\\' then throw .unknownClass else pure ([c], rest)
  if !m.unicode then throw .octets
  match bracedClass? name with
  | some (k, other) => return (m.negate (negated != other) (m.fold (.named k)), rest)
  | none => throw .unknownClass

/-- The names of the edges of words. -/
def edgeNames : List (List Char × WordEdge) :=
  [("start".toList, .opening), ("end".toList, .closing), ("start-half".toList, .halfOpening),
   ("end-half".toList, .halfClosing)]

/-- May a character stand in the name of an edge? -/
def isEdgeChar (c : Char) : Bool := ('A' ≤ c && c ≤ 'Z') || ('a' ≤ c && c ≤ 'z') || c = '-'

/-- The characters of a name of an edge and the text after them. -/
def takeEdgeName (loose : Bool) : (fuel : Nat) → List Char → List Char × List Char
  | 0, cs => ([], cs)
  | _ + 1, [] => ([], [])
  | fuel + 1, c :: rest =>
    if isEdgeChar c then
      let (name, rest) := takeEdgeName loose fuel (skip loose rest)
      (c :: name, rest)
    else ([], c :: rest)

/-- The edge of a word after `\b`: any, or the one that is named in braces.  Braces that cannot hold
a name are left for a repetition. -/
def readWordEdge (loose : Bool) : List Char → Reading (WordEdge × List Char)
  | '\x7b' :: rest =>
    match skip loose rest with
    | [] => .error .wordEdge
    | c :: inner =>
      if !isEdgeChar c then .ok (.edge, '\x7b' :: rest)
      else
        let (name, after) := takeEdgeName loose (inner.length + 1) (c :: inner)
        match after, edgeNames.lookup name with
        | '\x7d' :: rest, some e => .ok (e, rest)
        | _, _ => .error .wordEdge
  | cs => .ok (.edge, cs)

/-- The characters that a letter after a backslash stands for. -/
def controlChars : List (Char × Char) :=
  [('a', '\x07'), ('f', '\x0c'), ('t', '\t'), ('n', '\n'), ('r', '\r'), ('v', '\x0b')]

/-- May a backslash stand before a character without giving it a meaning? -/
def isPlainEscape (c : Char) : Bool :=
  isMeta c || (c.toNat < 128 && !c.isAlphanum && c ≠ '<' && c ≠ '>')

/-- What a backslash begins. -/
def readEscape (m : Mode) : List Char → Reading (Escaped × List Char)
  | [] => .error .unfinished
  | c :: rest =>
    if '0' ≤ c && c ≤ '9' then .error .backreference
    else if c = 'x' || c = 'u' || c = 'U' then do
      let ((d, short), rest) ← readHex m.loose (if c = 'x' then 2 else if c = 'u' then 4 else 8) rest
      return (if short && !m.unicode then .octet d else .literal d, rest)
    else if c = 'p' || c = 'P' then do
      let (s, rest) ← readNamedClass m (c = 'P') rest
      return (.set s, rest)
    else if ['d', 's', 'w', 'D', 'S', 'W'].contains c then .ok (.set (m.letterSet c), rest)
    else if isPlainEscape c then .ok (.literal c, rest)
    else if c = 'b' then do
      let (e, rest) ← readWordEdge m.loose rest
      return (.look (.word e (!m.unicode)), rest)
    else if c = 'B' then .ok (.look (.word .inside (!m.unicode)), rest)
    else if c = '<' then .ok (.look (.word .opening (!m.unicode)), rest)
    else if c = '>' then .ok (.look (.word .closing (!m.unicode)), rest)
    else if c = 'A' then .ok (.look .textStart, rest)
    else if c = 'z' then .ok (.look .textEnd, rest)
    else
      match controlChars.lookup c with
      | some d => .ok (.literal d, rest)
      | none => .error .unknownEscape

end Instrument.Pattern
