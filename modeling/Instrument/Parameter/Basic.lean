/-
# Parameters

A parameter has a name, a kind, a range of admissible values and a format for the wire.  A parameter
is read once from its entry in a schema; its format then suits its kind, and only numbers have an
interval for a range.  Both facts are part of the type.
-/
import Instrument.Range
import Instrument.Schema.Entry
import Instrument.WireFormat.Parser
import Instrument.DateFormat.Basic

namespace Instrument

/-- How the values of a parameter are written on the wire. -/
inductive Encoding
  | wire (f : WireFormat)
  | date (f : DateFormat)
  deriving DecidableEq, Repr

namespace Encoding

/-- The template of an encoding. -/
def source : Encoding → String
  | .wire f => f.source
  | .date f => f.source

/-- Can the encoding write values of a kind?  Dates have a format of their own. -/
def suits (e : Encoding) (kind : Kind) : Bool :=
  match e with
  | .wire f => kind ≠ .date && (f.unsuited? kind).isNone
  | .date _ => kind = .date

/-- The template of one conversion. -/
def conversion (source : String) (width : Option Nat) (k : Conversion) : Encoding :=
  .wire ⟨source, [.conversion ⟨.none, width, none⟩ k]⟩

/-- The encoding that holds for a kind where no other is given. -/
def standard : Kind → Encoding
  | .byte | .int | .long => conversion "%d" none .decimal
  | .float | .double => conversion "%f" none .fixed
  | .char => conversion "%1s" (some 1) (.text false)
  | .boolean | .text | .token => conversion "%s" none (.text false)
  | .date => .date .standard

theorem suits_standard (kind : Kind) : (standard kind).suits kind = true := by
  cases kind <;> rfl

theorem source_standard (kind : Kind) : (standard kind).source = kind.defaultFormat := by
  cases kind <;> rfl

end Encoding

/-- A range with its text in the schema. -/
structure RangeClause where
  text : String
  range : Range
  deriving Repr

/-- Only numbers have an interval for a range. -/
def RangeClause.suits (r : RangeClause) (kind : Kind) : Bool := !r.range.isInterval || kind.isNumeric

/-- A parameter. -/
structure Parameter where
  name : String
  kind : Kind
  range : Option RangeClause
  encoding : Encoding
  /-- The template, if one was given. -/
  format : Option String
  description : Option String
  encoding_suits : encoding.suits kind = true
  range_suits : range.all (·.suits kind) = true
  deriving Repr

/-- What is wrong with a parameter's entry in a schema. -/
inductive EntryFault
  | key (inner key : String)
  | kind (name text : String)
  | range (name : String) (fault : RangeFault)
  | interval (name : String)
  | wireFormat (name : String) (fault : WireFormatFault)
  | dateFormat (name : String) (fault : DateFormatFault)
  deriving DecidableEq, Repr

/-- The wording of a fault in an entry. -/
def EntryFault.message : EntryFault → String
  | .key n k => "parameter \"" ++ n ++ "\" is declared under key \"" ++ k ++ "\""
  | .kind n t => "Invalid type for parameter " ++ n ++ ": " ++ Kind.unknownMessage t
  | .range n e => "Invalid range for parameter " ++ n ++ ": " ++ e.message
  | .interval n => "Interval range was found for non-numerical parameter " ++ n
  | .wireFormat n e => "Invalid format for parameter " ++ n ++ ": " ++ e.message
  | .dateFormat n e => "Invalid format for parameter " ++ n ++ ": " ++ e.message

namespace Parameter

/-- The parameter of a name and kind with the standard format and no range. -/
def plain (name : String) (kind : Kind) (description : Option String) : Parameter where
  name := name
  kind := kind
  range := none
  encoding := .standard kind
  format := none
  description := description
  encoding_suits := Encoding.suits_standard kind
  range_suits := rfl

/-- Reads a range for values of a kind. -/
def readRange (name : String) (kind : Kind) (text : String) :
    Except EntryFault { r : RangeClause // r.suits kind = true } :=
  match Range.read text with
  | .error e => .error (.range name e)
  | .ok range =>
    let clause : RangeClause := ⟨text, range⟩
    if h : clause.suits kind = true then .ok ⟨clause, h⟩ else .error (.interval name)

/-- A parameter with the range of a text. -/
def withRange (p : Parameter) (text : String) : Except EntryFault Parameter :=
  (readRange p.name p.kind text).map fun r =>
    { p with range := some r.1, range_suits := by simpa using r.2 }

/-- Reads a format for values of a kind. -/
def readEncoding (name : String) (kind : Kind) (text : String) :
    Except EntryFault { e : Encoding // e.suits kind = true } :=
  if h : kind = .date then
    match DateFormat.read text with
    | .error e => .error (.dateFormat name e)
    | .ok f => .ok ⟨.date f, by simp [Encoding.suits, h]⟩
  else
    match WireFormat.read text with
    | .error e => .error (.wireFormat name e)
    | .ok f =>
      match hf : f.unsuited? kind with
      | some k => .error (.wireFormat name (.incompatible k.letter kind.name))
      | none => .ok ⟨.wire f, by simp [Encoding.suits, h, hf]⟩

/-- A parameter with the format of a text. -/
def withFormat (p : Parameter) (text : String) : Except EntryFault Parameter :=
  (readEncoding p.name p.kind text).map fun e =>
    { p with encoding := e.1, format := some text, encoding_suits := e.2 }

/-- A clause that a blank text leaves out. -/
def rangeText? (e : ParameterEntry) : Option String :=
  e.range.filter fun r => !(Text.trim r.toList).isEmpty

/-- The format of an entry; an empty text gives none. -/
def formatText? (e : ParameterEntry) : Option String := e.wireFormat.filter (· ≠ "")

/-- A change that is made if there is a text for it. -/
def withOption (change : Parameter → String → Except EntryFault Parameter) (text : Option String)
    (p : Parameter) : Except EntryFault Parameter :=
  match text with
  | some t => change p t
  | none => .ok p

/-- Reads the entry under the key `name`: first its own name, then type, range and format. -/
def ofEntry (name : String) (e : ParameterEntry) : Except EntryFault Parameter := do
  if let some inner := e.name then
    if inner ≠ name then throw (.key inner name)
  match Kind.ofName? e.kind with
  | none => throw (.kind name e.kind)
  | some kind =>
    let p := plain name kind e.description
    let p ← withOption withRange (rangeText? e) p
    withOption withFormat (formatText? e) p

/-- The entry of a parameter. -/
def entry (p : Parameter) : ParameterEntry :=
  ⟨some p.name, p.kind.name, p.range.map (·.text), p.format, p.description⟩

/-- A parameter as it is shown: name, kind, description and range. -/
def display (p : Parameter) : String :=
  "Parameter: " ++ p.name ++ " (" ++ p.kind.name ++ ")" ++
    (match p.description with | some d => "\n" ++ d | none => "") ++
    (match p.range with | some r => "\nRange : " ++ r.text | none => "")

end Parameter

end Instrument
