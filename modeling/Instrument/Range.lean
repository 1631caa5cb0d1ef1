/-
# Ranges of admissible values

A range is an interval `(lo,hi)`, `[lo,hi]`, `(lo,hi]` or `[lo,hi)`, checked numerically, or a list
`a,b,c`, checked by exact membership.  Any round or square bracket makes a text an interval or
nothing.  `Range.read` takes the notation to a range or to the fault in it, and `Range.display`
writes a range back.
-/
import Instrument.Text.Blank
import Instrument.Number.Numeral
import Instrument.Number.Shortest

namespace Instrument

/-- A range of admissible values. -/
inductive Range
  | interval (lower upper : Float) (lowerClosed upperClosed : Bool)
  | list (items : List String)
  deriving Repr

/-- What is wrong with the notation of a range; each fault holds the trimmed text. -/
inductive RangeFault
  | malformed (text : String)
  | boundCount (text : String)
  | lowerBound (text : String)
  | upperBound (text : String)
  | reversed (text : String)
  | emptyList (text : String)
  | unrecognised (text : String)
  deriving DecidableEq, Repr

/-- The wording of a range fault. -/
def RangeFault.message : RangeFault → String
  | .malformed t => "malformed interval \"" ++ t ++ "\""
  | .boundCount t => "interval \"" ++ t ++ "\" must have exactly two bounds"
  | .lowerBound t => "lower bound of \"" ++ t ++ "\" is not a number"
  | .upperBound t => "upper bound of \"" ++ t ++ "\" is not a number"
  | .reversed t => "lower bound exceeds upper bound in \"" ++ t ++ "\""
  | .emptyList t => "empty list range \"" ++ t ++ "\""
  | .unrecognised t => "range \"" ++ t ++ "\" is neither interval nor list form"

namespace Range

open Number

/-- Does `c` open an interval? -/
def isOpening (c : Char) : Bool := c = '(' || c = '['

/-- Does `c` close an interval? -/
def isClosing (c : Char) : Bool := c = ')' || c = ']'

/-- The text between the first and the last character. -/
def inner (cs : List Char) : List Char := cs.tail.dropLast

/-- Reads a trimmed text that has a bracket in it. -/
def readInterval (cs : List Char) : Except RangeFault Range :=
  let text := String.ofList cs
  match cs.head?, cs.getLast? with
  | some first, some last =>
    if !(isOpening first && isClosing last) || cs.length < 2 then .error (.malformed text)
    else
      match Text.splitOn ',' (inner cs) with
      | [lower, upper] =>
        match readFloat? (Text.trim lower) with
        | none => .error (.lowerBound text)
        | some lower =>
          match readFloat? (Text.trim upper) with
          | none => .error (.upperBound text)
          | some upper =>
            if upper < lower then .error (.reversed text)
            else .ok (.interval lower upper (first = '[') (last = ']'))
      | _ => .error (.boundCount text)
  | _, _ => .error (.malformed text)

/-- The items of a list: the trimmed pieces between commas, empty ones left out. -/
def listItems (cs : List Char) : List String :=
  ((Text.splitOn ',' cs).map Text.trim).filterMap fun item =>
    if item.isEmpty then none else some (String.ofList item)

/-- Reads the notation of a range. -/
def read (s : String) : Except RangeFault Range :=
  let cs := Text.trim s.toList
  if cs.any fun c => isOpening c || isClosing c then readInterval cs
  else if cs.contains ',' then
    match listItems cs with
    | [] => .error (.emptyList (String.ofList cs))
    | items => .ok (.list items)
  else .error (.unrecognised (String.ofList cs))

/-- Is the range an interval? -/
def isInterval : Range → Bool
  | .interval .. => true
  | .list _ => false

/-- Is the number `x` admitted?  A list admits the numbers that its items spell. -/
def hasNumber (x : Float) : Range → Bool
  | .interval lower upper lowerClosed upperClosed =>
    (if lowerClosed then lower ≤ x else lower < x) && (if upperClosed then x ≤ upper else x < upper)
  | .list items => items.any fun item =>
      match readFloat? item.toList with
      | some y => y == x
      | none => false

/-- Is the text `s` admitted?  An interval admits the numerals of the numbers within it. -/
def hasText (s : String) : Range → Bool
  | .list items => items.contains s
  | .interval lower upper lowerClosed upperClosed =>
    match readFloat? (Text.trim s.toList) with
    | some x => hasNumber x (.interval lower upper lowerClosed upperClosed)
    | none => false

/-- The notation of a range. -/
def display : Range → String
  | .interval lower upper lowerClosed upperClosed =>
    String.ofList
      ((if lowerClosed then '[' else '(') :: displayFloat lower ++ ',' :: displayFloat upper ++
        [if upperClosed then ']' else ')'])
  | .list items => String.intercalate "," items

end Range

end Instrument
