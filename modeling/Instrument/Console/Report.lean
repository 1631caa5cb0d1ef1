/-
# Reports of failures

What a failed run shows: what failed, then what lies behind it, the nearest cause first.  Several
causes are numbered; further lines of a cause stand under its first.
-/
import Instrument.Batch
import Instrument.Loading

namespace Instrument.Console

/-- What failed, and what lies behind it. -/
structure Report where
  message : String
  causes : List String
  deriving DecidableEq, Repr

namespace Report

/-- A report without causes. -/
def plain (message : String) : Report := ⟨message, []⟩

/-- A report as the cause of what it made fail. -/
def within (context : String) (r : Report) : Report := ⟨context, r.message :: r.causes⟩

/-- The report of a system's fault. -/
def ofIo (f : IoFault) : Report := plain f.text

/-- The report of a load fault. -/
def ofLoad (f : LoadFault) : Report := ⟨f.message, f.cause?.toList⟩

/-- What lies behind a session fault. -/
def sessionCause? : SessionFault → Option String
  | .parameter f => some f.message
  | .transport (.io f) => some f.text
  | _ => none

/-- The report of a session fault. -/
def ofSession (f : SessionFault) : Report := ⟨f.message, (sessionCause? f).toList⟩

/-- The report of a fault of a batch that was read from `file`. -/
def ofBatch (file : String) : BatchFault → Report
  | .notJson f => (plain f.message).within (file ++ " is not a JSON list of string lists")
  | .shape f => (plain f.message).within (file ++ " is not a JSON list of string lists")
  | .short entry width =>
    plain ("Entry " ++ Text.quotedList entry ++ " needs " ++ toString width ++ " fields")

/-- The lines of a text. -/
def linesOf (s : String) : List String := (Text.splitOn '\n' s.toList).map String.ofList

/-- The lines of a text, the first after `head` and the others after blanks. -/
def indented (head blanks : String) (s : String) : List String :=
  match linesOf s with
  | [] => []
  | first :: rest => (head ++ first) :: rest.map (blanks ++ ·)

/-- The number of a cause, in a column of five. -/
def number (n : Nat) : String :=
  let digits := Nat.toDigits 10 n
  String.ofList (List.replicate (5 - digits.length) ' ' ++ digits) ++ ": "

/-- Causes with their numbers from `n` on. -/
def numbered (n : Nat) : List String → List String
  | [] => []
  | cause :: rest => indented (number n) "       " cause ++ numbered (n + 1) rest

/-- The causes of a report. -/
def causeLines : List String → List String
  | [] => []
  | [cause] => ["", "Caused by:"] ++ indented "    " "    " cause
  | causes => ["", "Caused by:"] ++ numbered 0 causes

/-- The lines of a report. -/
def lines (r : Report) : List String := linesOf ("Error: " ++ r.message) ++ causeLines r.causes

end Report

end Instrument.Console
