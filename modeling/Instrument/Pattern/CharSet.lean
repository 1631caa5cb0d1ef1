/-
# Sets of characters

What a pattern may ask of one character.  A set is kept as it is written, as an expression over
ranges and named classes, and is only ever asked about one character at a time.
-/
import Instrument.Text.Case
import Instrument.Text.Category

namespace Instrument.Pattern

/-- A set of characters. -/
inductive CharSet
  | empty
  | range (low high : Char)
  | digit
  | word
  | blank
  | named (k : Text.NamedClass)
  | union (a b : CharSet)
  | inter (a b : CharSet)
  | diff (a b : CharSet)
  | outside (a : CharSet)
  /-- All characters equal to one of the set but for their case. -/
  | folded (a : CharSet)
  /-- The same for the letters `A` to `Z` alone. -/
  | foldedAscii (a : CharSet)
  deriving Inhabited, Repr

namespace CharSet

/-- Membership. -/
def has : CharSet → Char → Bool
  | empty, _ => false
  | range low high, c => low ≤ c && c ≤ high
  | digit, c => Text.isDecimalDigit c
  | word, c => Text.isWordChar c
  | blank, c => Text.isBlank c
  | named k, c => k.has c
  | union a b, c => a.has c || b.has c
  | inter a b, c => a.has c && b.has c
  | diff a b, c => a.has c && !b.has c
  | outside a, c => !a.has c
  | folded a, c => (Text.caseVariants c).any a.has
  | foldedAscii a, c => a.has c || a.has c.toLower || a.has c.toUpper

/-- The set of one character. -/
def one (c : Char) : CharSet := range c c

/-- Every character. -/
def all : CharSet := outside empty

/-- The characters in one of two sets but not in both. -/
def symmetricDiff (a b : CharSet) : CharSet := union (diff a b) (diff b a)

/-- The set of a list of sets. -/
def ofList : List CharSet → CharSet
  | [] => empty
  | [s] => s
  | s :: rest => union s (ofList rest)

theorem has_one (c d : Char) : (one c).has d = true ↔ d = c := by
  simp only [one, has, Bool.and_eq_true, decide_eq_true_eq]
  exact ⟨fun h => Char.le_antisymm h.2 h.1, fun h => h ▸ ⟨Char.le_refl _, Char.le_refl _⟩⟩

/-- The first 256 characters: the octets, when a pattern speaks of octets. -/
def octets : CharSet := range '\x00' '\xff'

/-- The decimal digits of ASCII. -/
def asciiDigit : CharSet := range '0' '9'

/-- The word characters of ASCII. -/
def asciiWord : CharSet :=
  ofList [range '0' '9', range 'A' 'Z', one '_', range 'a' 'z']

/-- The blanks of ASCII. -/
def asciiBlank : CharSet := union (range '\t' '\r') (one ' ')

/-- Does a set hold an octet that is no ASCII character? -/
def hasHighOctet (s : CharSet) : Bool :=
  (List.range 128).any fun i => s.has (Char.ofNat (128 + i))

/-- The classes that a name between colons stands for, as in `[:alpha:]`. -/
def asciiClasses : List (String × CharSet) :=
  [("alnum", ofList [range '0' '9', range 'A' 'Z', range 'a' 'z']),
   ("alpha", union (range 'A' 'Z') (range 'a' 'z')),
   ("ascii", range '\x00' '\x7f'),
   ("blank", union (one '\t') (one ' ')),
   ("cntrl", union (range '\x00' '\x1f') (one '\x7f')),
   ("digit", asciiDigit),
   ("graph", range '!' '~'),
   ("lower", range 'a' 'z'),
   ("print", range ' ' '~'),
   ("punct", ofList [range '!' '/', range ':' '@', range '[' (Char.ofNat 0x60), range '\x7b' '~']),
   ("space", asciiBlank),
   ("upper", range 'A' 'Z'),
   ("word", asciiWord),
   ("xdigit", ofList [range '0' '9', range 'A' 'F', range 'a' 'f'])]

end CharSet

end Instrument.Pattern
