/-
# Lines to devices

What a device puts on a line, and when: octets in chunks, pauses, failures and the end of the stream.
A pause begins when a reader first meets it, and is shorter by as long as a reader has waited for it.
Durations are in hundredths of a millisecond.
-/
import Instrument.Transport.Fault

namespace Instrument

/-- What happens on a line. -/
inductive LineEvent
  | data (octets : List UInt8)
  | wait (duration : Nat)
  | close
  | fail (fault : IoFault)
  deriving DecidableEq, Repr

/-- What is still to happen on a line, in order.  With nothing left the line is silent. -/
abbrev Line := List LineEvent

/-- The hundredths of a millisecond in a number of milliseconds. -/
def ticks (milliseconds : Nat) : Nat := milliseconds * 100

/-- The greatest number of octets that are taken from a line at once. -/
def chunkSize : Nat := 1024

/-- Octets in chunks; `fuel` is their number. -/
def chunks : (fuel : Nat) → List UInt8 → List (List UInt8)
  | 0, _ => []
  | _ + 1, [] => []
  | fuel + 1, b :: rest =>
    (b :: rest).take chunkSize :: chunks fuel ((b :: rest).drop chunkSize)

/-- An event as a reader meets it: data in chunks, none of them empty. -/
def LineEvent.chunked : LineEvent → Line
  | .data octets => (chunks octets.length octets).map .data
  | e => [e]

/-- Puts more events on a line. -/
def Line.feed (l : Line) (events : List LineEvent) : Line := l ++ events.flatMap (·.chunked)

end Instrument
