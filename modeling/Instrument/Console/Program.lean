/-
# The program

What a command line comes to: what is printed, and how the run ends.  Reading files is a function
from paths to what reading them comes to; the one file that may be written is handed over with the
outcome.  An instrument that was connected is disconnected whatever came of the task.
-/
import Instrument.Console.Arguments
import Instrument.Console.Report
import Instrument.Schema.Writer

namespace Instrument.Console

/-- How a run ends: what it printed, line by line, and the report if it failed. -/
structure Ending where
  printed : List String
  failure : Option Report
  deriving DecidableEq, Repr

namespace Ending

/-- A run that succeeded. -/
def success (printed : List String) : Ending := ⟨printed, none⟩

/-- A run that failed. -/
def failed (printed : List String) (r : Report) : Ending := ⟨printed, some r⟩

/-- The exit code. -/
def code (e : Ending) : Nat := if e.failure.isSome then 1 else 0

end Ending

/-- What reading the files of some place comes to. -/
abbrev Files := String → Except IoFault String

section Online

variable {σ : Type} [Transport σ]

/-- Submits one command.  A response that is nothing is not printed. -/
def submitOne (s : Session σ) (command : String) (args : List String) : Ending × Session σ :=
  match s.submitTexts command args with
  | (.error e, s) => (.failed [] (.ofSession e), s)
  | (.ok r, s) => (.success (if r.isNone then [] else ["> " ++ r.display]), s)

/-- Reads a batch from a file. -/
def readBatch (files : Files) (l : Layout α) (file : String) : Except Report (List α) := do
  let text ← (files file).mapError fun e => (Report.ofIo e).within ("Failed to read " ++ file)
  (l.readBatch text).mapError (Report.ofBatch file)

/-- Submits the steps of a batch. -/
def applyAll (s : Session σ) (steps : List Step) : Ending × Session σ :=
  let (responses, outcome, s) := s.submitAll steps
  let printed := List.zipWith Step.report steps responses
  match outcome with
  | .error e => (.failed printed (.ofSession e), s)
  | .ok () =>
    (.success (printed ++
      ["Config setting completed: " ++ toString steps.length ++ " commands"]), s)

/-- How checks end whose differences are known. -/
def judge (total : Nat) (differences : List String) : Ending :=
  if differences.isEmpty then .success ["Config confirmation successful."]
  else .failed ("Config confirmation failed in following areas:" :: differences)
    (.plain (toString differences.length ++ " of " ++ toString total ++ " settings differ"))

/-- Submits the steps of a batch and compares the responses. -/
def confirmAll (s : Session σ) (checks : List Check) : Ending × Session σ :=
  let (responses, outcome, s) := s.submitAll (checks.map (·.toStep))
  match outcome with
  | .error e => (.failed [] (.ofSession e), s)
  | .ok () => (judge checks.length (Check.differences checks responses), s)

/-- Does a task over a session that is connected. -/
def Task.perform (files : Files) (s : Session σ) : Task → Ending × Session σ
  | .submit command args => submitOne s command args
  | .apply file =>
    match readBatch files Step.layout file with
    | .error r => (.failed [] r, s)
    | .ok steps => applyAll s steps
  | .confirm file =>
    match readBatch files Check.layout file with
    | .error r => (.failed [] r, s)
    | .ok checks => confirmAll s checks

/-- Connects, does a task and disconnects. -/
def Task.run (files : Files) (s : Session σ) (t : Task) : Ending × Session σ :=
  match s.connect with
  | (.error e, s) =>
    (.failed [] ((Report.ofSession e).within ("Failed to connect to " ++ s.profile.name)), s)
  | (.ok (), s) =>
    let (ending, s) := t.perform files s
    (ending, s.disconnect.2)

/-- The line about a schema that is valid. -/
def summary (s : Session σ) : String :=
  "Schema '" ++ s.profile.name ++ "' is valid: " ++
    toString s.profile.parameters.length ++ " parameters, " ++
    toString s.profile.commands.length ++ " commands, " ++
    s.profile.connection.type.name ++ " transport"

/-- Names, each on a line of its own. -/
def listed (title : String) (names : List String) : List String := title :: names.map ("  " ++ ·)

/-- What there is to say about an instrument. -/
def overview (s : Session σ) : List String :=
  [s.profile.name ++ " (" ++ Transport.kind s.transport ++ " at " ++
    Transport.endpoint s.transport ++ ")"] ++
    s.profile.description.toList ++
    listed "Commands:" (s.profile.commands.map (·.name)) ++
    listed "Parameters:" (s.profile.parameters.map (·.name))

/-- What there is to say about a command or a parameter; commands come first. -/
def describe (p : Profile) (name : String) : Ending :=
  match p.command? name, p.parameter? name with
  | some c, _ => .success [c.display]
  | none, some q => .success [q.display]
  | none, none => .failed [] (.plain ("\"" ++ name ++ "\" is neither a command nor a parameter"))

end Online

/-- What a run comes to: its ending, or a file to be written before it ends. -/
inductive Outcome
  | ended (ending : Ending)
  | saving (path text : String)
  deriving DecidableEq, Repr

/-- How a run ends once its file was written, or could not be. -/
def Outcome.saved (path : String) : Except IoFault Unit → Ending
  | .ok () => .success ["Schema written to " ++ path]
  | .error e => .failed [] ((Report.ofIo e).within ("Failed to write " ++ path))

/-- Does what the program is asked to do. -/
def Action.run [Transport σ] (files : Files) (s : Session σ) : Action → Outcome
  | .validate => .ended (.success [summary s])
  | .info none => .ended (.success (overview s))
  | .info (some name) => .ended (describe s.profile name)
  | .dump none => .ended (.success [s.profile.schema.write])
  | .dump (some path) => .saving path s.profile.schema.write
  | .online task => .ended (task.run files s).1

/-- Runs a command line. -/
def Invocation.run (i : Invocation) (files : Files) (around : Surroundings JsonRpc) : Outcome :=
  match i.schema with
  | none => .ended (.failed [] (.plain "--schema <path> is required"))
  | some file =>
    match Session.load (files file) around with
    | .error e => .ended (.failed [] ((Report.ofLoad e).within ("Failed to load schema " ++ file)))
    | .ok s => i.action.run files s

/-- The files that a command line may read. -/
def Invocation.paths (i : Invocation) : List String :=
  i.schema.toList ++
    match i.action with
    | .online (.apply file) => [file]
    | .online (.confirm file) => [file]
    | _ => []

end Instrument.Console
