/-
# Literal text in patterns

The characters that mean something in a pattern, and the pattern text that matches a given text
alone: those characters with a backslash in front of each.
-/

namespace Instrument.Pattern

/-- The characters with a meaning of their own in patterns. -/
def metaChars : List Char :=
  ['\\', '.', '+', '*', '?', '(', ')', '|', '[', ']', '\x7b', '\x7d', '^', '$', '#', '&', '-', '~']

/-- Has `c` a meaning of its own in patterns? -/
def isMeta (c : Char) : Bool := metaChars.contains c

/-- The pattern text for a character that stands for itself. -/
def escapeChar (c : Char) : List Char := if isMeta c then ['\\', c] else [c]

/-- The pattern text for a text that stands for itself. -/
def escape (cs : List Char) : List Char := cs.flatMap escapeChar

end Instrument.Pattern
