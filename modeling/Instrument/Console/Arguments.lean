/-
# Arguments of the command line

The words after the program's name: options, then the name of an action, then its operands, with
options among them.  An option may be given once before the action and once after it; what comes
after counts.  After `--` every word is an operand.
-/
import Instrument.Text.Blank

namespace Instrument.Console

/-- What is done while an instrument is connected. -/
inductive Task
  | submit (command : String) (args : List String)
  | apply (file : String)
  | confirm (file : String)
  deriving DecidableEq, Repr

/-- What the program is asked to do. -/
inductive Action
  | validate
  | info (name : Option String)
  | dump (output : Option String)
  | online (task : Task)
  deriving DecidableEq, Repr

/-- A command line that was read. -/
structure Invocation where
  schema : Option String
  verbose : Bool
  action : Action
  deriving DecidableEq, Repr

/-- The options. -/
inductive Switch
  | schema
  | verbose
  | output
  | help
  | version
  deriving DecidableEq, Repr

namespace Switch

/-- The name of an option. -/
def name : Switch → String
  | schema => "schema"
  | verbose => "verbose"
  | output => "output"
  | help => "help"
  | version => "version"

/-- The letter of an option. -/
def letter : Switch → Char
  | schema => 's'
  | verbose => 'v'
  | output => 'o'
  | help => 'h'
  | version => 'V'

/-- Does an option come with a value? -/
def hasValue : Switch → Bool
  | schema => true
  | output => true
  | _ => false

end Switch

/-- Why a command line asks for nothing that can be run. -/
inductive UsageFault
  | help
  | version
  | unknownOption (word : String)
  | unexpectedValue (option : Switch)
  | missingValue (option : Switch)
  | emptyValue
  | repeated (option : Switch)
  | unexpected (word : String)
  | missing (what : String)
  deriving DecidableEq, Repr

namespace UsageFault

/-- The exit code: asking for help is no mistake. -/
def code : UsageFault → Nat
  | help => 0
  | version => 0
  | _ => 2

/-- The wording of a usage fault. -/
def message : UsageFault → String
  | help => "commander [-s SCHEMA] [-v] validate | info [NAME] | submit COMMAND [ARGS] | " ++
      "apply FILE | confirm FILE | dump [-o OUTPUT]"
  | version => "commander"
  | unknownOption w => "unknown option '" ++ w ++ "'"
  | unexpectedValue o => "option '--" ++ o.name ++ "' has no value"
  | missingValue o => "option '--" ++ o.name ++ "' needs a value"
  | emptyValue => "a path must not be empty"
  | repeated o => "option '--" ++ o.name ++ "' was given twice"
  | unexpected w => "unexpected argument '" ++ w ++ "'"
  | missing what => "missing " ++ what

end UsageFault

/-- A word by its form. -/
inductive Word
  | operand (text : String)
  | closing
  | long (name : String) (value : Option String)
  | letters (cs : List Char)
  deriving DecidableEq, Repr

/-- The form of a word.  A dash alone is an operand. -/
def Word.ofString (s : String) : Word :=
  match s.toList with
  | ['-', '-'] => .closing
  | '-' :: '-' :: cs =>
    match cs.dropWhile (· ≠ '=') with
    | [] => .long (String.ofList cs) none
    | _ :: value => .long (String.ofList (cs.takeWhile (· ≠ '='))) (some (String.ofList value))
  | '-' :: c :: cs => .letters (c :: cs)
  | _ => .operand s

/-- What the options set. -/
structure Settings where
  schema : Option String
  verbose : Bool
  output : Option String
  deriving DecidableEq, Repr

namespace Settings

/-- Nothing set. -/
def none : Settings := ⟨.none, false, .none⟩

/-- Sets an option that comes with a value, which is a path. -/
def set (s : Settings) (o : Switch) (value : String) : Except UsageFault Settings :=
  if value.isEmpty then .error .emptyValue
  else
    match o with
    | .schema =>
      if s.schema.isSome then .error (.repeated o) else .ok { s with schema := some value }
    | .output =>
      if s.output.isSome then .error (.repeated o) else .ok { s with output := some value }
    | _ => .error (.unexpectedValue o)

/-- Sets an option that comes without a value. -/
def mark (s : Settings) : Switch → Except UsageFault Settings
  | .verbose => if s.verbose then .error (.repeated .verbose) else .ok { s with verbose := true }
  | .help => .error .help
  | .version => .error .version
  | o => .error (.missingValue o)

/-- Settings made after others. -/
def after (inner outer : Settings) : Settings :=
  ⟨inner.schema.or outer.schema, inner.verbose || outer.verbose, inner.output.or outer.output⟩

end Settings

/-- What may stand at some place of a command line: the options, and how many operands. -/
structure Place where
  options : List Switch
  room : Option Nat

/-- The words read so far at a place: the option that waits for its value, and whether `--` was
among them. -/
structure Scan where
  settings : Settings
  waiting : Option Switch
  closed : Bool
  operands : List String

namespace Scan

/-- No words. -/
def start : Scan := ⟨.none, none, false, []⟩

/-- May the next word be the name of an action? -/
def ready (s : Scan) : Bool := !s.closed && s.waiting.isNone

/-- Sets an option that comes with a value. -/
def set (s : Scan) (o : Switch) (value : String) : Except UsageFault Scan := do
  return { s with settings := ← s.settings.set o value, waiting := none }

/-- Sets an option that comes without a value. -/
def mark (s : Scan) (o : Switch) : Except UsageFault Scan := do
  return { s with settings := ← s.settings.mark o }

/-- Adds an operand, if there is room. -/
def operand (p : Place) (s : Scan) (w : String) : Except UsageFault Scan :=
  match s.waiting with
  | some o => .error (.missingValue o)
  | none =>
    if p.room.any (· ≤ s.operands.length) then .error (.unexpected w)
    else .ok { s with operands := s.operands ++ [w] }

/-- Reads an option by its name. -/
def long (p : Place) (s : Scan) (name : String) (value : Option String) : Except UsageFault Scan :=
  match p.options.find? (·.name = name), value with
  | none, _ => .error (.unknownOption name)
  | some o, some v => if o.hasValue then s.set o v else .error (.unexpectedValue o)
  | some o, none => if o.hasValue then .ok { s with waiting := some o } else s.mark o

/-- Reads options by their letters.  The first that comes with a value takes what is left as its
value, with or without an equals sign before it. -/
def letters (p : Place) (s : Scan) : List Char → Except UsageFault Scan
  | [] => .ok s
  | c :: rest =>
    match p.options.find? (·.letter = c) with
    | none => .error (.unknownOption (String.ofList [c]))
    | some o =>
      if o.hasValue then
        match rest with
        | [] => .ok { s with waiting := some o }
        | '=' :: value => s.set o (String.ofList value)
        | value => s.set o (String.ofList value)
      else do letters p (← s.mark o) rest

/-- Reads one word. -/
def step (p : Place) (s : Scan) (w : String) : Except UsageFault Scan :=
  if s.closed then s.operand p w
  else
    match s.waiting, Word.ofString w with
    | some o, .operand value => s.set o value
    | some o, _ => .error (.missingValue o)
    | none, .operand _ => s.operand p w
    | none, .closing => .ok { s with closed := true }
    | none, .long name value => s.long p name value
    | none, .letters cs => s.letters p cs

/-- The operands, once all words are read. -/
def finish (s : Scan) : Except UsageFault (List String) :=
  match s.waiting with
  | some o => .error (.missingValue o)
  | none => .ok s.operands

end Scan

/-- The names of actions. -/
inductive Verb
  | validate
  | info
  | submit
  | apply
  | confirm
  | dump
  deriving DecidableEq, Repr

namespace Verb

/-- Every verb. -/
def all : List Verb := [validate, info, submit, apply, confirm, dump]

/-- The name of a verb. -/
def name : Verb → String
  | validate => "validate"
  | info => "info"
  | submit => "submit"
  | apply => "apply"
  | confirm => "confirm"
  | dump => "dump"

/-- The verb of a name. -/
def ofName? (s : String) : Option Verb := all.find? fun v => v.name = s

theorem ofName?_name (v : Verb) : ofName? v.name = some v := by cases v <;> decide +kernel

/-- What may stand after a verb. -/
def place : Verb → Place
  | validate => ⟨[.schema, .verbose, .help], some 0⟩
  | info => ⟨[.schema, .verbose, .help], some 1⟩
  | submit => ⟨[.schema, .verbose, .help], none⟩
  | apply => ⟨[.schema, .verbose, .help], some 1⟩
  | confirm => ⟨[.schema, .verbose, .help], some 1⟩
  | dump => ⟨[.schema, .verbose, .output, .help], some 0⟩

end Verb

/-- An operand that is a path. -/
def path (operands : List String) : Except UsageFault String :=
  match operands with
  | [] => .error (.missing "FILE")
  | f :: _ => if f.isEmpty then .error .emptyValue else .ok f

/-- The action of a verb with its operands. -/
def Verb.action (settings : Settings) (operands : List String) : Verb → Except UsageFault Action
  | validate => .ok .validate
  | info => .ok (.info operands.head?)
  | submit =>
    match operands with
    | [] => .error (.missing "COMMAND")
    | command :: args => .ok (.online (.submit command args))
  | apply => (path operands).map fun f => .online (.apply f)
  | confirm => (path operands).map fun f => .online (.confirm f)
  | dump => .ok (.dump settings.output)

namespace Invocation

/-- What may stand before the verb. -/
def place : Place := ⟨[.schema, .verbose, .help, .version], some 0⟩

/-- Reads the words after a verb. -/
def ofOperands (outer : Settings) (v : Verb) (words : List String) : Except UsageFault Invocation := do
  let s ← words.foldlM (Scan.step v.place) Scan.start
  let operands ← s.finish
  let action ← v.action s.settings operands
  let all := s.settings.after outer
  return ⟨all.schema, all.verbose, action⟩

/-- Reads the words of a command line, those before `words` being read. -/
def readFrom (s : Scan) : List String → Except UsageFault Invocation
  | [] => .error (.missing "an action")
  | w :: rest =>
    if s.ready && w = "help" then .error .help
    else
      match if s.ready then Verb.ofName? w else none with
      | some v => ofOperands s.settings v rest
      | none => do readFrom (← s.step place w) rest

/-- Reads the words of a command line. -/
def read (words : List String) : Except UsageFault Invocation := readFrom .start words

end Invocation

end Instrument.Console
