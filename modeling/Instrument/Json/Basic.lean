/-
# JSON values

A value of the data format.  An object is a list of members in the order in which they are written;
`Json.insert` keeps a list of members in ascending order of names, and what `Json.read` yields is
always in that order with each name once.
-/
import Instrument.Number.Numeral
import Instrument.Number.Shortest

namespace Instrument

/-- A JSON value. -/
inductive Json
  | null
  | bool (b : Bool)
  | integer (n : Int)
  | real (x : Float)
  | single (x : Float32)
  | text (s : String)
  | array (items : List Json)
  | object (members : List (String × Json))
  deriving Inhabited, Repr

namespace Json

/-- Sets the member `name` in a list in ascending order of names, in place of one of that name. -/
def insert (name : String) (value : Json) : List (String × Json) → List (String × Json)
  | [] => [(name, value)]
  | (n, v) :: rest =>
    if name = n then (name, value) :: rest
    else if name < n then (name, value) :: (n, v) :: rest
    else (n, v) :: insert name value rest

/-- The value of a member of an object. -/
def get? (name : String) : Json → Option Json
  | .object members => members.lookup name
  | _ => none

/-- The text of a text value. -/
def asText? : Json → Option String
  | .text s => some s
  | _ => none

/-- The value of a number that is a natural. -/
def asNat? : Json → Option Nat
  | .integer n => if 0 ≤ n then some n.toNat else none
  | _ => none

/-- Members whose value is present. -/
def present (members : List (String × Option Json)) : List (String × Json) :=
  members.filterMap fun (n, v) => v.map (n, ·)

end Json

end Instrument
