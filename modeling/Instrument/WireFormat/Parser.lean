/-
# Reading wire formats

A conversion is a percent sign, an optional argument index, flags, a width, a precision and a letter.
The index, digits with a dollar sign, is admitted and means nothing.  Leading digits without a dollar
sign are a width, and their leading zeros the flag `0`; flags may stand before a width only, and a
width of zeros alone counts as none.  A percent sign or an `n` for the letter stands for a percent
sign or a line break.  A width past 64 bits counts as none, a precision past them as zero.  Text is
gathered until a conversion or the end, and is one piece then.
-/
import Instrument.WireFormat.Basic

namespace Instrument.WireFormat

open Number

/-- The largest width or precision that counts. -/
def greatestCount : Nat := Nat.pow 2 64 - 1

/-- The number of a run of digits, if there are any and it counts. -/
def count? (digits : List Char) : Option Nat :=
  if digits.isEmpty || greatestCount < Digits.value digits then none
  else some (Digits.value digits)

/-- A flag added to others; `none` if the character is no flag. -/
def addFlag? (f : Flags) : Char → Option Flags
  | '-' => some { f with left := true }
  | '+' => some { f with plus := true }
  | ' ' => some { f with space := true }
  | '0' => some { f with zero := true }
  | '#' => some { f with alternate := true }
  | _ => none

/-- A run of flags and the text after it. -/
def readFlags (f : Flags) : List Char → Flags × List Char
  | [] => (f, [])
  | c :: rest =>
    match addFlag? f c with
    | some f => readFlags f rest
    | none => (f, c :: rest)

/-- Flags and a width, where leading digits may already have been read. -/
def readWidth (flags : Flags) (digits rest : List Char) : Flags × Option Nat × List Char :=
  if digits.isEmpty then
    let (flags, rest) := readFlags flags rest
    let (digits, rest) := Digits.span rest
    (flags, count? digits, rest)
  else (flags, count? digits, rest)

/-- Index, flags and width. -/
def readField (cs : List Char) : Flags × Option Nat × List Char :=
  let (digits, rest) := Digits.span cs
  match rest with
  | '$' :: rest => readWidth Flags.none [] rest
  | rest =>
    let flags := { Flags.none with zero := digits.head? = some '0' }
    readWidth flags (digits.dropWhile (· = '0')) rest

/-- A precision, if a point follows. -/
def readPrecision : List Char → Option Nat × List Char
  | '.' :: rest =>
    let (digits, rest) := Digits.span rest
    (some ((count? digits).getD 0), rest)
  | rest => (none, rest)

/-- All that stands between a percent sign and the letter. -/
def readSpec (cs : List Char) : Spec × List Char :=
  let (flags, width, rest) := readField cs
  let (precision, rest) := readPrecision rest
  (⟨flags, width, precision⟩, rest)

theorem length_readFlags (f : Flags) (cs : List Char) :
    (readFlags f cs).2.length ≤ cs.length := by
  induction cs generalizing f with
  | nil => simp [readFlags]
  | cons c rest ih =>
    simp only [readFlags]
    split
    · exact Nat.le_succ_of_le (ih _)
    · simp

theorem length_span_snd (cs : List Char) : (Digits.span cs).2.length ≤ cs.length := by
  have h := congrArg List.length (Digits.span_append cs)
  simp at h
  omega

theorem length_readWidth (f : Flags) (digits cs : List Char) :
    (readWidth f digits cs).2.2.length ≤ cs.length := by
  unfold readWidth
  split
  · exact Nat.le_trans (length_span_snd _) (length_readFlags f cs)
  · simp

theorem length_readField (cs : List Char) : (readField cs).2.2.length ≤ cs.length := by
  have h := length_span_snd cs
  unfold readField
  simp only
  split
  · rename_i rest heq
    have := length_readWidth Flags.none [] rest
    rw [heq] at h
    simp only [List.length_cons] at h
    omega
  · exact Nat.le_trans (length_readWidth _ _ _) h

theorem length_readPrecision (cs : List Char) : (readPrecision cs).2.length ≤ cs.length := by
  unfold readPrecision
  split
  · rename_i rest
    exact Nat.le_succ_of_le (length_span_snd rest)
  · simp

/-- What is left after a specification is no longer than the text. -/
theorem length_readSpec (cs : List Char) : (readSpec cs).2.length ≤ cs.length :=
  Nat.le_trans (length_readPrecision _) (length_readField cs)

/-- Text in front of pieces, as a piece of its own if there is any. -/
def flush (text : List Char) (pieces : List Piece) : List Piece :=
  if text.isEmpty then pieces else .text text :: pieces

/-- The pieces of a template, of which `text` is gathered for the next piece; `source` is the whole
text of the template.  A conversion ends the piece in front of it. -/
def readPieces (source : String) (text : List Char) :
    List Char → Except WireFormatFault (List Piece)
  | [] => .ok (flush text [])
  | c :: cs =>
    if c = '%' then
      match _h : (readSpec cs).2 with
      | [] => .error (.unterminated source)
      | k :: rest =>
        if k = '%' then readPieces source (text ++ ['%']) rest
        else if k = 'n' then readPieces source (text ++ ['\n']) rest
        else
          match Conversion.ofLetter? k with
          | some conv =>
            (readPieces source [] rest).map fun pieces =>
              flush text (.conversion (readSpec cs).1 conv :: pieces)
          | none => .error (.unsupported source k)
    else readPieces source (text ++ [c]) cs
  termination_by cs => cs.length
  decreasing_by
    all_goals
      first
      | (have h := length_readSpec cs
         simp only [_h, List.length_cons] at h ⊢
         omega)
      | simp

/-- Reads a template. -/
def read (source : String) : Except WireFormatFault WireFormat :=
  (readPieces source [] source.toList).map fun pieces => ⟨source, pieces⟩

end Instrument.WireFormat
