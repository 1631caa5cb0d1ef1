/-
# Templates of commands and replies

A template is a text with the names of parameters in parentheses.  A name is not empty and holds
neither blanks nor parentheses; whatever else stands between parentheses is text, parentheses
included.  `Template.fill` puts texts in the places of the names.
-/
import Instrument.Text.Blank

namespace Instrument

/-- A part of a template: a character that stands for itself, or the place of a parameter. -/
inductive TemplatePart
  | literal (c : Char)
  | hole (name : List Char)
  deriving DecidableEq, Repr

/-- A template with its text. -/
structure Template where
  source : String
  parts : List TemplatePart
  deriving DecidableEq, Repr

namespace Template

/-- May a character stand in the name of a parameter? -/
def isNameChar (c : Char) : Bool := !(Text.isBlank c || c = '(' || c = ')')

/-- The text of a name that was begun, its last character first, as text. -/
def unfinished : Option (List Char) → List TemplatePart
  | none => []
  | some name => ('(' :: name.reverse).map .literal

/-- The parts of a text, given the name that was begun before it, its last character first. -/
def scan : Option (List Char) → List Char → List TemplatePart
  | begun, [] => unfinished begun
  | none, c :: rest => if c = '(' then scan (some []) rest else .literal c :: scan none rest
  | some name, c :: rest =>
    if c = ')' && !name.isEmpty then .hole name.reverse :: scan none rest
    else if c = '(' then unfinished (some name) ++ scan (some []) rest
    else if isNameChar c then scan (some (c :: name)) rest
    else unfinished (some name) ++ .literal c :: scan none rest

/-- The template of a text. -/
def ofText (s : String) : Template := ⟨s, scan none s.toList⟩

/-- The names in the places of a template, in order. -/
def names (t : Template) : List String :=
  t.parts.filterMap fun
    | .literal _ => none
    | .hole name => some (String.ofList name)

/-- The text of a part. -/
def partText : TemplatePart → List Char
  | .literal c => [c]
  | .hole name => '(' :: name ++ [')']

/-- Parts with texts in their places, in order; a place without a text is left as it is. -/
def fillParts : List TemplatePart → List (List Char) → List Char
  | [], _ => []
  | .literal c :: rest, texts => c :: fillParts rest texts
  | .hole _ :: rest, text :: texts => text ++ fillParts rest texts
  | .hole name :: rest, [] => partText (.hole name) ++ fillParts rest []

/-- A template with texts in its places. -/
def fill (t : Template) (texts : List String) : String :=
  String.ofList (fillParts t.parts (texts.map (·.toList)))

/-- The text of characters that stand for themselves. -/
theorem flatMap_partText_literal (cs : List Char) :
    (cs.map TemplatePart.literal).flatMap partText = cs := by
  induction cs with
  | nil => rfl
  | cons c rest ih => simp [partText, ih]

/-- The text of a name that was begun. -/
theorem flatMap_partText_unfinished (name : List Char) :
    (unfinished (some name)).flatMap partText = '(' :: name.reverse :=
  flatMap_partText_literal _

/-- The parts of a text make up that text. -/
theorem flatMap_partText_scan (begun : Option (List Char)) (cs : List Char) :
    (scan begun cs).flatMap partText = (unfinished begun).flatMap partText ++ cs := by
  induction cs generalizing begun with
  | nil => cases begun <;> simp [scan]
  | cons c rest ih =>
    cases begun with
    | none =>
      by_cases hc : c = '('
      · simp [scan, hc, ih, flatMap_partText_unfinished, show unfinished none = [] from rfl]
      · simp [scan, hc, ih, unfinished, partText]
    | some name =>
      rw [flatMap_partText_unfinished]
      simp only [scan]
      split
      · rename_i h
        simp only [Bool.and_eq_true, decide_eq_true_eq] at h
        simp [h.1, ih, unfinished, partText]
      · split
        · rename_i h
          simp [h, ih, flatMap_partText_unfinished]
        · split
          · simp [ih, flatMap_partText_unfinished]
          · simp [ih, flatMap_partText_unfinished, show unfinished none = [] from rfl, partText]

end Template

end Instrument
