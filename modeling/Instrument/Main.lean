/-
# The command line

`commander` reads its words and its files, prints what the run prints and writes what it leaves to be
written.  It opens neither sockets nor ports: to it every instrument is out of reach.
-/
import Instrument.Console.Program

namespace Instrument.Console

/-- The fault that a system reports. -/
def ioFault (e : IO.Error) : IoFault :=
  match e with
  | .noFileOrDirectory .. => .noSuchFile
  | .permissionDenied .. => ⟨.permissionDenied, "Permission denied (os error 13)"⟩
  | .inappropriateType _ code _ => if code = 21 then .folder else .notFolder
  | e => ⟨.other, e.toString⟩

/-- Reads a file. -/
def readFile (path : String) : IO (Except IoFault String) := do
  try
    let octets ← IO.FS.readBinFile path
    match String.fromUTF8? octets with
    | some text => return .ok text
    | none => return .error ⟨.invalidData, "stream did not contain valid UTF-8"⟩
  catch e => return .error (ioFault e)

/-- Writes a file. -/
def writeFile (path text : String) : IO (Except IoFault Unit) := do
  try
    IO.FS.writeFile path text
    return .ok ()
  catch e => return .error (ioFault e)

/-- Shows how a run ended. -/
def finish (e : Ending) : IO UInt32 := do
  e.printed.forM IO.println
  match e.failure with
  | some r => r.lines.forM IO.eprintln
  | none => pure ()
  return UInt32.ofNat e.code

/-- Runs the words of a command line. -/
def runWords (words : List String) : IO UInt32 := do
  match Invocation.read words with
  | .error e =>
    if e.code = 0 then IO.println e.message else IO.eprintln ("error: " ++ e.message)
    return UInt32.ofNat e.code
  | .ok i =>
    let texts ← i.paths.mapM fun path => do return (path, ← readFile path)
    let files : Files := fun path => (texts.lookup path).getD (.error .noSuchFile)
    match i.run files .none with
    | .ended e => finish e
    | .saving path text => finish (Outcome.saved path (← writeFile path text))

end Instrument.Console

/-- The program. -/
def main (words : List String) : IO UInt32 := Instrument.Console.runWords words
