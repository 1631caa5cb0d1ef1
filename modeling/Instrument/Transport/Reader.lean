/-
# Reading replies

A line has no frames, so a reply ends where one of three rules says: at a terminator, after a number
of octets, or when the line falls silent.  Octets past the end of a reply stay in the reader and begin
the next one; a read that fails leaves none.
-/
import Instrument.Text.Blank
import Instrument.Text.Utf8
import Instrument.Transport.Line

namespace Instrument

/-- How the end of a reply is found. -/
inductive ReadStrategy
  | terminator (octets : List UInt8)
  | length (n : Nat)
  | untilQuiet
  deriving DecidableEq, Repr

/-- The strategy of settings: a terminator that is not empty comes first, then a length that is not
zero. -/
def ReadStrategy.ofSettings (terminator : Option String) (length : Option Nat) : ReadStrategy :=
  match terminator.filter (· ≠ ""), length.filter (· ≠ 0) with
  | some t, _ => .terminator (Text.encode t.toList)
  | none, some n => .length n
  | none, none => .untilQuiet

/-- A reader: its strategy, the milliseconds after which it gives up, and the octets past the end of
the reply before. -/
structure Reader where
  strategy : ReadStrategy
  timeout : Nat
  pending : List UInt8
  deriving DecidableEq, Repr

namespace Reader

/-- A reader without octets. -/
def fresh (strategy : ReadStrategy) (timeout : Nat) : Reader := ⟨strategy, timeout, []⟩

/-- Forgets the octets past the end of the reply before. -/
def clear (r : Reader) : Reader := { r with pending := [] }

/-- The octets without copies of `t` at the start; `fuel` is their number. -/
def strip (t : List UInt8) : (fuel : Nat) → List UInt8 → List UInt8
  | 0, octets => octets
  | fuel + 1, octets => if t.isPrefixOf octets then strip t fuel (octets.drop t.length) else octets

/-- The octets before the first occurrence of `t` and those after it. -/
def splitAt? (t : List UInt8) : List UInt8 → Option (List UInt8 × List UInt8)
  | [] => none
  | b :: rest =>
    if t.isPrefixOf (b :: rest) then some ([], (b :: rest).drop t.length)
    else (splitAt? t rest).map fun (before, after) => (b :: before, after)

/-- A whole reply at the start of octets, and the octets past its end.  Terminators before any
content are left over from replies before. -/
def complete? (s : ReadStrategy) (octets : List UInt8) : Option (List UInt8 × List UInt8) :=
  match s with
  | .terminator t => splitAt? t (strip t octets.length octets)
  | .length n => if n ≤ octets.length then some (octets.take n, octets.drop n) else none
  | .untilQuiet => none

/-- The least silence that ends a reply. -/
def leastQuiet : Nat := ticks 20

/-- The silence that ends a reply: a hundredth of the timeout, but not less than the least. -/
def quiet (timeout : Nat) : Nat := max timeout leastQuiet

/-- How long the reader waits for more when `left` is left of its time. -/
def patience (r : Reader) (octets : List UInt8) (left : Nat) : Nat :=
  if r.strategy = .untilQuiet && !octets.isEmpty then min left (quiet r.timeout) else left

/-- The outcome of a read: the octets of the reply or the fault, the octets past the end, what is
still to happen on the line, and how long it took. -/
structure Outcome where
  reply : Except TransportFault (List UInt8)
  pending : List UInt8
  line : Line
  elapsed : Nat

/-- The outcome after a pause. -/
def Outcome.after (duration : Nat) (o : Outcome) : Outcome :=
  { o with elapsed := o.elapsed + duration }

/-- The end of a read when nothing more comes; `fault` is why, if that is one. -/
def stop (r : Reader) (endpoint : String) (octets : List UInt8) (fault : TransportFault) :
    Except TransportFault (List UInt8) :=
  match r.strategy with
  | .untilQuiet => if octets.isEmpty then .error (.nothingRead endpoint r.timeout) else .ok octets
  | _ => .error fault

/-- Reads on while the octets so far are no whole reply; `left` is what is left of the time, and
`patient` how long the reader waits for the next octets. -/
def await (r : Reader) (endpoint : String) (octets : List UInt8) (left patient : Nat) :
    Line → Outcome
  | [] => ⟨r.stop endpoint octets (.timeout r.timeout), [], [], patient⟩
  | .wait d :: rest =>
    if d ≤ patient then (r.await endpoint octets (left - d) (patient - d) rest).after d
    else ⟨r.stop endpoint octets (.timeout r.timeout), [], .wait (d - patient) :: rest, patient⟩
  | .close :: rest => ⟨r.stop endpoint octets (.closed endpoint), [], .close :: rest, 0⟩
  | .fail f :: rest => ⟨.error (.io f), [], rest, 0⟩
  | .data more :: rest =>
    let octets := octets ++ more
    match complete? r.strategy octets with
    | some (reply, pending) => ⟨.ok reply, pending, rest, 0⟩
    | none => r.await endpoint octets left (r.patience octets left) rest

/-- Reads one reply in octets. -/
def readOctets (r : Reader) (endpoint : String) (l : Line) : Outcome :=
  match complete? r.strategy r.pending with
  | some (reply, pending) => ⟨.ok reply, pending, l, 0⟩
  | none => r.await endpoint r.pending (ticks r.timeout) (r.patience r.pending (ticks r.timeout)) l

/-- The text of a reply: octets that are no text are replaced, blanks at the ends do not count. -/
def textOf (octets : List UInt8) : String := String.ofList (Text.trim (Text.decode octets))

/-- Reads one reply. -/
def read (r : Reader) (endpoint : String) (l : Line) :
    Except TransportFault String × Reader × Line :=
  let o := r.readOctets endpoint l
  (o.reply.map textOf, { r with pending := o.pending }, o.line)

end Reader

end Instrument
