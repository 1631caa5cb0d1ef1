/-
# The shape of documents

Readers from JSON values to the types of a schema.  A record is an object whose members are its
fields, under their names or under older ones, or an array of its fields in order.  The members of an
object are read in order; the first that is not of its field's shape, or that repeats a field, is the
fault.  Fields that are missing are reported only after that, in the order of the record.
-/
import Instrument.Json.Writer
import Instrument.Number.Integer
import Instrument.Text.Blank
import Instrument.Text.Quoted

namespace Instrument

/-- Why a document does not have the shape of a schema. -/
inductive ShapeFault
  | missing (field : String)
  | repeated (field : String)
  | type (found : Json) (expected : String)
  | outOfBounds (n : Int) (expected : String)
  | length (n : Nat) (expected : String)
  | numeral (fault : Number.IntegerFault)
  | connectionTag (found : Json)
  | connectionType (tag : String)
  | parity (text : String)
  | notParity (found : Json)
  deriving Repr

/-- A value as it is named in a fault. -/
def Json.describe : Json → String
  | .null => "null"
  | .bool b => "boolean `" ++ (Json.bool b).compact ++ "`"
  | .integer n => "integer `" ++ (Json.integer n).compact ++ "`"
  | .real x => "floating point `" ++ (Json.real x).compact ++ "`"
  | .single x => "floating point `" ++ (Json.single x).compact ++ "`"
  | .text s => "string " ++ Text.quoted s
  | .array _ => "sequence"
  | .object _ => "map"

/-- The wording for a name that is no parity. -/
def unknownParity (text : String) : String := "unknown parity \"" ++ text ++ "\""

/-- The wording for a tag that is no type of connection. -/
def unknownConnectionType (tag : String) : String := "unknown connection type \"" ++ tag ++ "\""

/-- The wording of a shape fault. -/
def ShapeFault.message : ShapeFault → String
  | .missing f => "missing field `" ++ f ++ "`"
  | .repeated f => "duplicate field `" ++ f ++ "`"
  | .type v e => "invalid type: " ++ v.describe ++ ", expected " ++ e
  | .outOfBounds n e =>
    "invalid value: integer `" ++ (Json.integer n).compact ++ "`, expected " ++ e
  | .length n e => "invalid length " ++ toString n ++ ", expected " ++ e
  | .numeral f => f.message
  | .connectionTag v => "connection type must be a string, got " ++ v.compact
  | .connectionType t => unknownConnectionType t
  | .parity t => unknownParity t
  | .notParity v => "invalid parity " ++ v.compact

namespace Shape

/-- What reads one type out of a document. -/
abbrev Reader (α : Type) := Json → Except ShapeFault α

/-- A text. -/
def text : Reader String
  | .text s => .ok s
  | v => .error (.type v "a string")

/-- A value that may be null. -/
def nullable (read : Reader α) : Reader (Option α)
  | .null => .ok none
  | v => (read v).map some

/-- The items of an array; the first that is not of their shape is the fault. -/
def items (read : Reader α) : List Json → Except ShapeFault (List α)
  | [] => .ok []
  | v :: rest => do
    let a ← read v
    let more ← items read rest
    return a :: more

/-- An array as a list of values of one shape. -/
def list (read : Reader α) : Reader (List α)
  | .array vs => items read vs
  | v => .error (.type v "a sequence")

/-- A width of words, with its name in faults. -/
structure Width where
  bits : Nat
  name : String
  deriving DecidableEq, Repr

/-- Words of 8 bits. -/
def Width.w8 : Width := ⟨8, "u8"⟩

/-- Words of 16 bits. -/
def Width.w16 : Width := ⟨16, "u16"⟩

/-- Words of 32 bits. -/
def Width.w32 : Width := ⟨32, "u32"⟩

/-- Words of 64 bits. -/
def Width.w64 : Width := ⟨64, "u64"⟩

/-- Sizes. -/
def Width.size : Width := ⟨64, "usize"⟩

/-- A number that fits a word. -/
def word (w : Width) : Reader Nat
  | .integer n =>
    if (Number.Bounds.unsigned w.bits).has n then .ok n.toNat else .error (.outOfBounds n w.name)
  | v => .error (.type v w.name)

/-- The numeral of a number that fits a word; blanks around it do not count. -/
def numeral (w : Width) (s : String) : Except ShapeFault Nat :=
  match Number.readInteger (.unsigned w.bits) (Text.trim s.toList) with
  | .ok n => .ok n.toNat
  | .error e => .error (.numeral e)

/-- A number that fits a word, or its numeral as a text. -/
def lenientWord (w : Width) : Reader Nat
  | .text s => numeral w s
  | v => word w v

/-- A number or numeral that may be left out as null or as a blank text. -/
def lenientOption (w : Width) : Reader (Option Nat)
  | .null => .ok none
  | .text s => if (Text.trim s.toList).isEmpty then .ok none else (numeral w s).map some
  | v => (word w v).map some

/-- The values of a list of members. -/
def members (read : Reader α) : List (String × Json) → Except ShapeFault (List (String × α))
  | [] => .ok []
  | (n, v) :: rest => do
    let a ← read v
    let more ← members read rest
    return (n, a) :: more

/-- An object as a table from names to values of one shape. -/
def table (read : Reader α) : Reader (List (String × α))
  | .object ms => members read ms
  | v => .error (.type v "a map")

/-- A field of a record: its name, an older name of it, and what reads its value. -/
structure Field (α : Type) where
  name : String
  older : Option String
  read : Reader α

/-- What is checked of a field before the record is put together. -/
structure Slot where
  name : String
  older : Option String
  check : Json → Except ShapeFault Unit

/-- The slot of a field. -/
def Field.slot (f : Field α) : Slot := ⟨f.name, f.older, fun v => (f.read v).map fun _ => ()⟩

/-- Does a key name the field? -/
def Slot.isNamed (s : Slot) (key : String) : Bool := s.name = key || s.older = some key

/-- A record that was opened: its fields under their names, and how a missing one is reported. -/
structure Record where
  values : List (String × Json)
  missing : String → ShapeFault

/-- The fields of an object under their names; `seen` are those before. -/
def gather (slots : List Slot) (seen : List String) :
    List (String × Json) → Except ShapeFault (List (String × Json))
  | [] => .ok []
  | (key, v) :: rest =>
    match slots.find? (·.isNamed key) with
    | none => gather slots seen rest
    | some s =>
      if seen.contains s.name then .error (.repeated s.name)
      else do
        s.check v
        let more ← gather slots (s.name :: seen) rest
        return (s.name, v) :: more

/-- The fields of an array under their names. -/
def gatherItems : List Slot → List Json → Except ShapeFault (List (String × Json))
  | s :: slots, v :: rest => do
    s.check v
    let more ← gatherItems slots rest
    return (s.name, v) :: more
  | _, _ => .ok []

/-- A record as it is named in a fault. -/
def recordName (type : String) : String := "struct " ++ type

/-- A record with its count of fields. -/
def recordSize (type : String) (slots : List Slot) : String :=
  recordName type ++ " with " ++ toString slots.length ++ " elements"

/-- Opens a record. -/
def openRecord (type : String) (slots : List Slot) : Reader Record
  | .object ms => do
    let values ← gather slots [] ms
    return ⟨values, .missing⟩
  | .array items => do
    let values ← gatherItems slots items
    if slots.length < items.length then
      throw (.length items.length "fewer elements in array")
    return ⟨values, fun name =>
      .length ((slots.map (·.name)).idxOf name) (recordSize type slots)⟩
  | v => .error (.type v (recordName type))

/-- The value of a field that must be there. -/
def Record.get (r : Record) (f : Field α) : Except ShapeFault α :=
  match r.values.lookup f.name with
  | some v => f.read v
  | none => .error (r.missing f.name)

/-- The value of a field, or `default` when it is missing. -/
def Record.getD (r : Record) (f : Field α) (default : α) : Except ShapeFault α :=
  match r.values.lookup f.name with
  | some v => f.read v
  | none => .ok default

/-- The value of a field that may be null or missing. -/
def Record.get? (r : Record) (f : Field (Option α)) : Except ShapeFault (Option α) := r.getD f none

end Shape

end Instrument
