/-
# Spellings of a schema

A schema is written in one way and may be given in many: fields go by older names too, numbers in
the settings of a connection may be numerals, a type of connection has several tags, and a parity is
a name or a code.  `schemaForm` relates the document that is written for a schema to all those that
are given for it.  Nothing here looks at how documents are read: a form says which values stand for
a written one, and the forms of a document are put together as the document is.
-/
import Instrument.Number.Digits
import Instrument.Schema.Connection
import Instrument.Json.Basic
import Instrument.Text.Blank
import Mathlib.Data.List.Forall2

namespace Instrument

open Number

/-- The tags of a type of connection: its name, and what else it is called. -/
def ConnectionType.tags : ConnectionType → List String
  | .stream => ["stream", "tcp"]
  | .datagram => ["datagram", "udp"]
  | .serial => ["serial"]
  | .rpc => ["rpc", "ice"]

/-- The number of a parity. -/
def Parity.code : Parity → Nat
  | .none => 0
  | .odd => 1
  | .even => 2

/-- The words for a parity: its name and its number. -/
def Parity.words (p : Parity) : List String := [p.name, String.ofList (Digits.text p.code)]

namespace Spelling

/-! ## Texts -/

/-- A word with each of its letters in either case. -/
def Recased (word : String) (cs : List Char) : Prop :=
  List.Forall₂ (fun c d => d = c ∨ d = c.toUpper) word.toList cs

instance (word : String) (cs : List Char) : Decidable (Recased word cs) :=
  inferInstanceAs (Decidable (List.Forall₂ (fun c d => d = c ∨ d = c.toUpper) word.toList cs))

/-- A text with blanks around `cs`, if any. -/
def Padded (cs : List Char) (s : String) : Prop :=
  ∃ before after, (∀ c ∈ before, Text.isBlank c = true) ∧ (∀ c ∈ after, Text.isBlank c = true) ∧
    s.toList = before ++ (cs ++ after)

/-- The numerals of a number: a plus sign or none, any count of zeros, and its digits. -/
inductive NumeralOf (n : Nat) : List Char → Prop
  | plain (zeros : Nat) : NumeralOf n (List.replicate zeros '0' ++ Digits.text n)
  | signed (zeros : Nat) : NumeralOf n ('+' :: (List.replicate zeros '0' ++ Digits.text n))

/-! ## Values -/

/-- Which values may be given for a written one. -/
abbrev Form := Json → Json → Prop

/-- A number is given as it is or as a numeral, everything else as it is. -/
inductive NumberForm : Form
  | same (v : Json) : NumberForm v v
  | numeral {n : Nat} {cs : List Char} {s : String} (hcs : NumeralOf n cs) (hs : Padded cs s) :
      NumberForm (.integer n) (.text s)

/-- A type of connection is given by any of its tags, in any case of its letters. -/
inductive TagForm : Form
  | tag {type : ConnectionType} {word s : String} (hword : word ∈ type.tags)
      (hs : Recased word s.toList) : TagForm (.text type.name) (.text s)

/-- A parity is given by its name in any case of its letters or by its number, which may be a text
as well. -/
inductive ParityForm : Form
  | word {p : Parity} {word s : String} {cs : List Char} (hword : word ∈ p.words)
      (hcs : Recased word cs) (hs : Padded cs s) : ParityForm (.text p.name) (.text s)
  | code (p : Parity) : ParityForm (.text p.name) (.integer p.code)

/-! ## Records and tables -/

/-- The members of a record: each under its name or under an older one, with a value in one of its
forms, and in any order. -/
def Respelled (older : String → Option String) (form : String → Form)
    (written given : List (String × Json)) : Prop :=
  ∃ members, List.Forall₂ (fun w m => (m.1 = w.1 ∨ older w.1 = some m.1) ∧ form w.1 w.2 m.2)
    written members ∧ members.Perm given

/-- A record is given by its members. -/
inductive RecordForm (older : String → Option String) (form : String → Form) : Form
  | record {written given : List (String × Json)} (h : Respelled older form written given) :
      RecordForm older form (.object written) (.object given)

/-- A table is given with the same keys in the same order, and each value in one of its forms. -/
inductive TableForm (form : Form) : Form
  | table {written given : List (String × Json)}
      (h : List.Forall₂ (fun w m => m.1 = w.1 ∧ form w.2 m.2) written given) :
      TableForm form (.object written) (.object given)

/-! ## The parts of a schema -/

/-- The older name of a field of a parameter. -/
def parameterOlder : String → Option String
  | "wireFormat" => some "paramFormat"
  | _ => none

/-- The older name of a field of a command. -/
def commandOlder : String → Option String
  | "commandTemplate" => some "command"
  | "responseTemplate" => some "responseFormat"
  | "failurePattern" => some "sadRegex"
  | _ => none

/-- The older name of a setting of a connection. -/
def settingOlder : String → Option String
  | "baudRate" => some "baudrate"
  | "dataBits" => some "databit"
  | "stopBits" => some "stopbit"
  | "proxy" => some "proxyName"
  | _ => none

/-- The older name of a field of a schema. -/
def schemaOlder : String → Option String
  | "deviceFailurePattern" => some "deviceSadRegex"
  | "failureMarker" => some "errorNotifier"
  | "parameters" => some "paramDefMap"
  | "commands" => some "commandMap"
  | _ => none

/-- The forms of a parameter. -/
def parameterForm : Form := RecordForm parameterOlder fun _ => Eq

/-- The forms of a command. -/
def commandForm : Form := RecordForm commandOlder fun _ => Eq

/-- The forms of a remote method. -/
def methodForm : Form := RecordForm (fun _ => none) fun _ => NumberForm

/-- The forms of a listener. -/
def callbackForm : Form := RecordForm (fun _ => none) fun _ => Eq

/-- The forms of a setting of a connection, by its name; every number may be a numeral. -/
def settingForm : String → Form
  | "type" => TagForm
  | "parity" => ParityForm
  | "methods" => TableForm methodForm
  | "callback" => callbackForm
  | _ => NumberForm

/-- The forms of a connection. -/
def connectionForm : Form := RecordForm settingOlder settingForm

/-- The forms of a field of a schema, by its name. -/
def partForm : String → Form
  | "connectionProperties" => connectionForm
  | "parameters" => TableForm parameterForm
  | "commands" => TableForm commandForm
  | _ => Eq

/-- The forms of a schema. -/
def schemaForm : Form := RecordForm schemaOlder partForm

end Spelling

end Instrument
