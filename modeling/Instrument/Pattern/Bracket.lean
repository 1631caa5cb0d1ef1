/-
# Sets in brackets

The notation of sets of characters: single characters, ranges and classes, sets within sets, and
intersection `&&`, difference `--` and symmetric difference `~~`, all from left to right.
-/
import Instrument.Pattern.Lexical

namespace Instrument.Pattern

/-- A set with the depth to which brackets and operations are nested in it. -/
structure NestedSet where
  set : CharSet
  depth : Nat
  deriving Inhabited, Repr

/-- An operation between two sets. -/
inductive SetOperation
  | inter
  | diff
  | symmetricDiff
  deriving DecidableEq, Repr

/-- The result of an operation. -/
def SetOperation.apply (m : Mode) (a b : CharSet) : SetOperation → CharSet
  | .inter => .inter (m.fold a) (m.fold b)
  | .diff => .diff (m.fold a) (m.fold b)
  | .symmetricDiff => .symmetricDiff (m.fold a) (m.fold b)

/-- The operation of a doubled character. -/
def SetOperation.ofPair? : Char → List Char → Option SetOperation
  | '&', '&' :: _ => some .inter
  | '-', '-' :: _ => some .diff
  | '~', '~' :: _ => some .symmetricDiff
  | _, _ => none

/-- What is still to be done with the set to the left. -/
abbrev Pending := Option (SetOperation × NestedSet)

/-- The union of items, the latest first. -/
def unionOf : List NestedSet → NestedSet
  | [] => ⟨.empty, 0⟩
  | [s] => s
  | items => ⟨.ofList (items.reverse.map (·.set)), 1 + (items.map (·.depth)).foldl max 0⟩

/-- Applies what is pending to the set to the right. -/
def Pending.apply (m : Mode) (p : Pending) (right : NestedSet) : NestedSet :=
  match p with
  | none => right
  | some (op, left) => ⟨op.apply m left.set right.set, 1 + max left.depth right.depth⟩

/-- A class by its name between colons, after an opening bracket. -/
def colonClass? (m : Mode) : List Char → Option (CharSet × List Char)
  | ':' :: rest =>
    let (negated, rest) := match rest with
      | '^' :: rest => (true, rest)
      | rest => (false, rest)
    match rest.dropWhile (· ≠ ':') with
    | ':' :: ']' :: after =>
      (CharSet.asciiClasses.lookup (String.ofList (rest.takeWhile (· ≠ ':')))).map fun s =>
        (m.negate negated (m.fold s), after)
    | _ => none
  | _ => none

/-- An item of a set: a character or what a backslash begins. -/
def readBracketItem (m : Mode) (c : Char) (rest : List Char) : Reading (Escaped × List Char) :=
  if c = '\\' then readEscape m rest else .ok (.literal c, rest)

/-- An item as a character. -/
def Escaped.bracketChar (m : Mode) : Escaped → Reading Char
  | .literal c => if m.unicode || c.toNat < 128 then .ok c else .error .octets
  | .octet c => .ok c
  | .set _ | .look _ => .error .bracketRange

/-- An item as a set. -/
def Escaped.bracketSet (m : Mode) : Escaped → Reading CharSet
  | .set s => .ok s
  | .look _ => .error .bracketItem
  | e => (e.bracketChar m).map .one

/-- A character, a class or a range. -/
def readBracketRange (m : Mode) (c : Char) (rest : List Char) : Reading (CharSet × List Char) := do
  let (low, rest) ← readBracketItem m c rest
  match skip m.loose rest with
  | [] => throw .bracketUnclosed
  | '-' :: after =>
    match skip m.loose after with
    | [] => throw .bracketUnclosed
    | d :: tail =>
      if d = ']' || d = '-' then return (← low.bracketSet m, '-' :: after)
      else
        let (high, rest) ← readBracketItem m d tail
        let low ← low.bracketChar m
        let high ← high.bracketChar m
        if low ≤ high then return (.range low high, rest) else throw .bracketRange
  | after => return (← low.bracketSet m, after)

/-- What follows an opening bracket: is the set all characters outside of it? -/
def bracketSign (loose : Bool) (cs : List Char) : Bool × List Char :=
  match skip loose cs with
  | '^' :: rest => (true, rest)
  | rest => (false, rest)

/-- The set of a whole pair of brackets. -/
def finishBracket (m : Mode) (negated : Bool) (s : NestedSet) : NestedSet :=
  ⟨m.negate negated (m.fold s.set), s.depth + 1⟩

/-- Reads up to the closing bracket.  Hyphens at the start, and a closing bracket there, stand for
themselves; `items` are those since the last operation, the latest first. -/
def readItems (m : Mode) : (fuel : Nat) → (atStart : Bool) → Pending → List NestedSet → List Char →
    Reading (NestedSet × List Char)
  | 0, _, _, _, _ => .error .bracketUnclosed
  | fuel + 1, atStart, pending, items, cs =>
    match skip m.loose cs with
    | [] => .error .bracketUnclosed
    | c :: rest =>
      if atStart && c = '-' then
        readItems m fuel true pending (⟨.one '-', 0⟩ :: items) rest
      else if atStart && items.isEmpty && c = ']' then
        readItems m fuel false pending (⟨.one ']', 0⟩ :: items) rest
      else if c = '[' then
        match colonClass? m rest with
        | some (s, rest) => readItems m fuel false pending (⟨s, 0⟩ :: items) rest
        | none => do
          let (negated, rest) := bracketSign m.loose rest
          let (s, rest) ← readItems m fuel true none [] rest
          readItems m fuel false pending (finishBracket m negated s :: items) rest
      else if c = ']' then .ok (pending.apply m (unionOf items), rest)
      else
        match SetOperation.ofPair? c rest with
        | some op =>
          readItems m fuel false (some (op, pending.apply m (unionOf items))) [] (rest.drop 1)
        | none => do
          let (s, rest) ← readBracketRange m c rest
          readItems m fuel false pending (⟨s, 0⟩ :: items) rest

/-- Reads a set after its opening bracket. -/
def readBracket (m : Mode) (cs : List Char) : Reading (NestedSet × List Char) := do
  let (negated, rest) := bracketSign m.loose cs
  let (s, rest) ← readItems m (rest.length + 1) true none [] rest
  let s := finishBracket m negated s
  if !m.unicode && s.set.hasHighOctet then throw .octets
  return (s, rest)

end Instrument.Pattern
