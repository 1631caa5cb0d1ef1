/-
# Commands

A command has a template with its parameters, and may have a template of good replies and a pattern of
bad ones.  A command is read once from its entry in a schema: every name in a template must be that of
a parameter, and both patterns must be patterns.
-/
import Instrument.Parameter.Wire
import Instrument.Pattern.Matcher
import Instrument.Pattern.Reader
import Instrument.Registry
import Instrument.Template

namespace Instrument

/-- A pattern with its text. -/
structure Expression where
  source : String
  pattern : Pattern
  deriving Repr

/-- The expression of a text, for replies. -/
def Expression.ofText? (s : String) : Option Expression :=
  match Pattern.read .replies s.toList with
  | .ok pattern => some ⟨s, pattern⟩
  | .error _ => none

/-- The matches of an expression in a text. -/
def Expression.findAll (e : Expression) (text : String) : List Pattern.Found :=
  e.pattern.findAll text.toList

/-- The form of a good reply: its template, the parameters in the places of it, and the expression
that finds it. -/
structure ReplyForm where
  template : Template
  parameters : List Parameter
  expression : Expression
  deriving Repr

/-- A command. -/
structure Command where
  name : String
  description : Option String
  template : Template
  parameters : List Parameter
  reply : Option ReplyForm
  /-- The pattern of bad replies that the command itself gives. -/
  ownFailure : Option String
  /-- The pattern of bad replies in effect: its own, or that of the instrument. -/
  failure : Option Expression
  deriving Repr

/-- What a parameter is named for by a command. -/
inductive Role
  | argument
  | result
  deriving DecidableEq, Repr

/-- The wording of a role. -/
def Role.message : Role → String
  | .argument => "required"
  | .result => "expected"

/-- What is wrong with a command's entry in a schema. -/
inductive CommandFault
  | key (inner key : String)
  | unknownParameter (parameter : String) (role : Role) (command : String)
  | reply (command : String)
  | failure (command : String)
  deriving DecidableEq, Repr

/-- The wording of a command fault. -/
def CommandFault.message : CommandFault → String
  | .key n k => "command \"" ++ n ++ "\" is declared under key \"" ++ k ++ "\""
  | .unknownParameter p r c =>
    "unknown parameter \"" ++ p ++ "\" " ++ r.message ++ " in command \"" ++ c ++ "\""
  | .reply c => "response template of command \"" ++ c ++ "\" does not compile"
  | .failure c => "failure pattern of command \"" ++ c ++ "\" does not compile"

namespace Command

/-- The pattern text of a template: text stands for itself, and each place is a group around the
pattern of its parameter. -/
def replyPattern : List TemplatePart → List Parameter → List Char
  | [], _ => []
  | .literal c :: rest, ps => Pattern.escapeChar c ++ replyPattern rest ps
  | .hole _ :: rest, p :: ps => '(' :: p.pattern.toList ++ ')' :: replyPattern rest ps
  | .hole name :: rest, [] =>
    Pattern.escape (Template.partText (.hole name)) ++ replyPattern rest []

/-- The parameters of names, all of which must be known. -/
def resolve (registry : Registry) (command : String) (role : Role) :
    List String → Except CommandFault (List Parameter)
  | [] => .ok []
  | name :: rest =>
    match registry.get? name with
    | none => .error (.unknownParameter name role command)
    | some p => (resolve registry command role rest).map (p :: ·)

/-- The text of an option, unless it is empty. -/
def given? (s : Option String) : Option String := s.filter (· ≠ "")

/-- The form of a good reply by its template. -/
def ReplyForm.ofText (registry : Registry) (command text : String) :
    Except CommandFault ReplyForm := do
  let template := Template.ofText text
  let parameters ← resolve registry command .result template.names
  match Expression.ofText? (String.ofList (replyPattern template.parts parameters)) with
  | some e => return ⟨template, parameters, e⟩
  | none => throw (.reply command)

/-- What an option leads to. -/
def forOption (f : α → Except ε β) : Option α → Except ε (Option β)
  | none => .ok none
  | some a => (f a).map some

/-- The expression of a pattern of bad replies. -/
def readFailure (command pattern : String) : Except CommandFault Expression :=
  match Expression.ofText? pattern with
  | some e => .ok e
  | none => .error (.failure command)

/-- Reads an entry.  The command's own pattern of bad replies comes before that of the instrument;
empty templates and patterns count as not given. -/
def ofEntry (registry : Registry) (instrumentFailure : Option String) (name : String)
    (e : CommandEntry) : Except CommandFault Command := do
  let template := Template.ofText e.template
  let parameters ← resolve registry name .argument template.names
  let reply ← forOption (ReplyForm.ofText registry name) (given? e.response)
  let ownFailure := given? e.failure
  let failure ← forOption (readFailure name) (ownFailure.or (given? instrumentFailure))
  return { name, description := e.description, template, parameters, reply, ownFailure, failure }

/-- The parameters of a good reply. -/
def results (c : Command) : List Parameter := (c.reply.map (·.parameters)).getD []

/-- Does the instrument answer the command? -/
def expectsReply (c : Command) : Bool := c.reply.isSome || c.failure.isSome

/-- The entry of a command. -/
def entry (c : Command) : CommandEntry :=
  ⟨some c.name, c.template.source, c.reply.map (·.template.source), c.ownFailure, c.description⟩

/-- A list of parameters as it is shown under a title; nothing if it is empty. -/
def displayNames (title : String) (ps : List Parameter) : String :=
  if ps.isEmpty then ""
  else "\n" ++ title ++ " : [" ++ String.intercalate ", " (ps.map (·.name)) ++ "]"

/-- A command as it is shown. -/
def display (c : Command) : String :=
  "Command: " ++ c.name ++
    (match c.description with | some d => "\n" ++ d | none => "") ++
    displayNames "Parameters" c.parameters ++ displayNames "Response" c.results

end Command

end Instrument
