/-
# Responses

What comes back from a command: rows of values.  No row is nothing, one row of one value is that
value, and one row of several is that row.
-/
import Instrument.Value

namespace Instrument

/-- The response to a command. -/
inductive Response
  | none
  | value (v : Value)
  | row (values : List Value)
  | rows (rows : List (List Value))
  deriving Inhabited, Repr

namespace Response

/-- The response of a list of rows. -/
def ofRows : List (List Value) → Response
  | [] => none
  | [[v]] => value v
  | [r] => row r
  | rs => rows rs

/-- The rows of a response. -/
def toRows : Response → List (List Value)
  | none => []
  | value v => [[v]]
  | row r => [r]
  | rows rs => rs

theorem toRows_ofRows (rs : List (List Value)) : (ofRows rs).toRows = rs := by
  unfold ofRows
  split <;> rfl

/-- Is the response nothing? -/
def isNone : Response → Bool
  | none => true
  | _ => false

/-- The value of a response that is one. -/
def asValue? : Response → Option Value
  | value v => some v
  | _ => Option.none

/-- The first value of the first row. -/
def first? (r : Response) : Option Value := r.toRows.head?.bind (·.head?)

/-- Does the first row begin with the marker of failures? -/
def isFailure (r : Response) (marker : String) : Bool := (r.first?.bind (·.asText?)) = some marker

/-- A row as it is shown. -/
def displayRow (values : List Value) : String :=
  "[" ++ String.intercalate ", " (values.map (·.display)) ++ "]"

/-- A response as it is shown. -/
def display : Response → String
  | none => ""
  | value v => v.display
  | row r => displayRow r
  | rows rs => "[" ++ String.intercalate ", " (rs.map displayRow) ++ "]"

/-- A response as data. -/
def toJson : Response → Json
  | none => .null
  | value v => v.toJson
  | row r => .array (r.map (·.toJson))
  | rows rs => .array (rs.map fun r => .array (r.map (·.toJson)))

end Response

end Instrument
