/-
# Templates character by character

A template is made of pieces, and a piece of text is as long as the text between two conversions.
Where it matters which characters stand in front of a conversion and which behind it, a template is
taken as its segments: one for each character of the text, and one for each conversion.  Segment by
segment it writes what it writes piece by piece (`applyPieces_eq`).
-/
import Instrument.Proofs.Outcome
import Instrument.WireFormat.Render

namespace Instrument

/-- A part of a template: a character that stands for itself, or a conversion. -/
inductive Segment
  | literal (c : Char)
  | conversion (spec : Spec) (k : Conversion)

/-- The segments of a piece. -/
def Piece.segments : Piece → List Segment
  | .text cs => cs.map .literal
  | .conversion s k => [.conversion s k]

namespace WireFormat

/-- The segments of a template. -/
def segments (f : WireFormat) : List Segment := f.pieces.flatMap Piece.segments

/-- A segment of a template under a value. -/
def applySegment (v : Value) : Segment → Except WireFormatFault (List Char)
  | .literal c => .ok [c]
  | .conversion s k => applyPiece v (.conversion s k)

/-- Segments under a value; the first that does not suit it is the fault. -/
def applySegments (v : Value) : List Segment → Except WireFormatFault (List Char)
  | [] => .ok []
  | s :: rest =>
    match applySegment v s with
    | .error e => .error e
    | .ok cs => (applySegments v rest).map (cs ++ ·)

variable {v : Value}

theorem applySegments_cons {x : Segment} {xs : List Segment} {cs : List Char}
    (h : applySegments v (x :: xs) = .ok cs) :
    ∃ first rest, applySegment v x = .ok first ∧ applySegments v xs = .ok rest ∧
      cs = first ++ rest := by
  rw [applySegments] at h
  split at h
  · cases h
  · rename_i first hfirst
    obtain ⟨rest, hrest, rfl⟩ := map_eq_ok_iff.1 h
    exact ⟨first, rest, hfirst, hrest, rfl⟩

theorem applySegments_append {xs ys : List Segment} {cs : List Char}
    (h : applySegments v (xs ++ ys) = .ok cs) :
    ∃ front back, applySegments v xs = .ok front ∧ applySegments v ys = .ok back ∧
      cs = front ++ back := by
  induction xs generalizing cs with
  | nil => exact ⟨[], cs, rfl, h, rfl⟩
  | cons x xs ih =>
    obtain ⟨first, rest, hfirst, hrest, rfl⟩ := applySegments_cons h
    obtain ⟨front, back, hfront, hback, rfl⟩ := ih hrest
    refine ⟨first ++ front, back, ?_, hback, (List.append_assoc _ _ _).symm⟩
    rw [applySegments, hfirst, hfront]
    rfl

/-- Characters that stand for themselves are written in front of the rest. -/
theorem applySegments_literals_append (v : Value) (cs : List Char) (xs : List Segment) :
    applySegments v (cs.map .literal ++ xs) = (applySegments v xs).map (cs ++ ·) := by
  induction cs with
  | nil => cases hxs : applySegments v xs <;> simp [hxs, Except.map]
  | cons c cs ih =>
    rw [List.map_cons, List.cons_append, applySegments, ih]
    cases applySegments v xs <;> rfl

theorem applySegments_literals (v : Value) (cs : List Char) :
    applySegments v (cs.map .literal) = .ok cs := by
  have h := applySegments_literals_append v cs []
  rwa [List.append_nil, applySegments, Except.map, List.append_nil] at h

/-- **Pieces write what their segments write**, and fail where they fail. -/
theorem applyPieces_eq (v : Value) (pieces : List Piece) :
    applyPieces v pieces = applySegments v (pieces.flatMap Piece.segments) := by
  induction pieces with
  | nil => rfl
  | cons piece pieces ih =>
    rw [applyPieces, List.flatMap_cons, ih]
    cases piece with
    | text cs =>
      rw [Piece.segments, applySegments_literals_append]
      rfl
    | conversion s k => rfl

theorem apply_eq (f : WireFormat) (v : Value) :
    f.apply v = (applySegments v f.segments).map String.ofList := by
  rw [apply, applyPieces_eq]
  rfl

theorem convert?_of_applySegment {s : Spec} {k : Conversion} {cs : List Char}
    (h : applySegment v (.conversion s k) = .ok cs) : convert? s k v = some cs := by
  rw [applySegment, applyPiece] at h
  split at h
  · rename_i hconvert
    cases h
    exact hconvert
  · cases h

/-- Around one conversion a template writes its own text. -/
theorem exists_of_between {before after : List Char} {s : Spec} {k : Conversion} {cs : List Char}
    (h : applySegments v (before.map .literal ++ .conversion s k :: after.map .literal) = .ok cs) :
    ∃ mid, convert? s k v = some mid ∧ cs = before ++ (mid ++ after) := by
  obtain ⟨front, back, hfront, hback, rfl⟩ := applySegments_append h
  obtain ⟨mid, rest, hmid, hrest, rfl⟩ := applySegments_cons hback
  rw [applySegments_literals] at hfront hrest
  cases hfront
  cases hrest
  exact ⟨mid, convert?_of_applySegment hmid, rfl⟩

/-- A segment writes its text somewhere. -/
theorem exists_of_mem {x : Segment} {xs : List Segment} {cs : List Char}
    (h : applySegments v xs = .ok cs) (hx : x ∈ xs) :
    ∃ front mid back, applySegment v x = .ok mid ∧ cs = front ++ (mid ++ back) := by
  obtain ⟨before, after, rfl⟩ := List.append_of_mem hx
  obtain ⟨front, rest, -, hrest, rfl⟩ := applySegments_append h
  obtain ⟨mid, back, hmid, -, rfl⟩ := applySegments_cons hrest
  exact ⟨front, mid, back, hmid, rfl⟩

end WireFormat

end Instrument
