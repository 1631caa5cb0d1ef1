/-
# Batches

A batch is a list of entries, each a list of texts: a command, its arguments on a line and, where
replies are to be checked, the reply that is expected.  Its steps are submitted in order up to and
including the first that fails.
-/
import Instrument.Json.Reader
import Instrument.Schema.Shape
import Instrument.Session
import Instrument.Text.Case

namespace Instrument

/-- A step of a batch. -/
structure Step where
  command : String
  line : String
  deriving DecidableEq, Repr

/-- A step with the reply that is expected. -/
structure Check extends Step where
  expected : String
  deriving DecidableEq, Repr

/-- Why a text is no batch. -/
inductive BatchFault
  | notJson (fault : Json.SyntaxFault)
  | shape (fault : ShapeFault)
  | short (entry : List String) (width : Nat)
  deriving Repr

/-- What an entry must hold to be a step of some type. -/
structure Layout (α : Type) where
  width : Nat
  read? : List String → Option α

/-- The layout of plain steps. -/
def Step.layout : Layout Step where
  width := 2
  read?
    | command :: line :: _ => some ⟨command, line⟩
    | _ => none

/-- The layout of steps with replies. -/
def Check.layout : Layout Check where
  width := 3
  read?
    | command :: line :: expected :: _ => some ⟨⟨command, line⟩, expected⟩
    | _ => none

namespace Layout

/-- The steps of entries; the first that does not fit the layout is the fault. -/
def readEntries (l : Layout α) : List (List String) → Except BatchFault (List α)
  | [] => .ok []
  | e :: rest =>
    match l.read? e with
    | none => .error (.short e l.width)
    | some a => do
      let more ← l.readEntries rest
      return a :: more

/-- Reads a batch. -/
def readBatch (l : Layout α) (s : String) : Except BatchFault (List α) := do
  let document ← (Json.read s).mapError .notJson
  let entries ← (Shape.list (Shape.list Shape.text) document).mapError .shape
  l.readEntries entries

end Layout

/-- Submits steps in order: the responses up to the first fault, and what became of it. -/
def Session.submitAll [Transport σ] (s : Session σ) :
    List Step → List Response × Except SessionFault Unit × Session σ
  | [] => ([], .ok (), s)
  | step :: rest =>
    match s.submitLine step.command step.line with
    | (.error e, s) => ([], .error e, s)
    | (.ok r, s) =>
      let (rs, outcome, s) := submitAll s rest
      (r :: rs, outcome, s)

/-- A step and its response, on a line. -/
def Step.report (step : Step) (r : Response) : String := step.command ++ " -> " ++ r.display

namespace Check

/-- Is a response the one that is expected?  Blanks around either do not count, nor does the case of
the letters `A` to `Z`. -/
def holds (c : Check) (r : Response) : Bool :=
  Text.eqIgnoreAsciiCase (Text.trim r.display.toList) (Text.trim c.expected.toList)

/-- How a response differs from the one that is expected. -/
def difference (c : Check) (r : Response) : String :=
  "< " ++ c.command ++ " returned " ++ r.display ++ ". " ++ c.expected ++ " expected."

/-- The differences between what is expected and what came back. -/
def differences (checks : List Check) (responses : List Response) : List String :=
  (checks.zip responses).filterMap fun (c, r) => if c.holds r then none else some (c.difference r)

end Check

end Instrument
