/-
# Matching patterns

The search for a pattern in a text, from left to right.  At each place the ways to match are tried in
the order of preference that the pattern states, and the first that leads to a match of the whole is
taken.  A repetition does not go round again once it went round without taking a character, so every
search ends.
-/
import Instrument.Pattern.Basic

namespace Instrument.Pattern

/-- A place in a text: how far it is from the start, the character before it, if any, and the text
from there on; and the texts of the groups so far, the latest first. -/
structure Place where
  position : Nat
  before : Option Char
  rest : List Char
  groups : List (Nat × List Char)
  deriving Inhabited, Repr

namespace Place

/-- The start of a text. -/
def start (text : List Char) : Place := ⟨0, none, text, []⟩

/-- The place after one character of a set. -/
def step? (p : Place) (s : CharSet) : Option Place :=
  match p.rest with
  | c :: rest => if s.has c then some { p with position := p.position + 1, before := some c, rest }
    else none
  | [] => none

/-- Does the place have what a pattern asks of it? -/
def looks (p : Place) (l : Look) : Bool := l.holds p.before p.rest.head?

/-- The text from one place to a later one. -/
def textTo (p q : Place) : List Char := p.rest.take (q.position - p.position)

/-- The later place `q` with the text of a group that began at `p`. -/
def close (index : Nat) (p q : Place) : Place :=
  { q with groups := (index, p.textTo q) :: q.groups }

/-- The place without groups. -/
def fresh (p : Place) : Place := { p with groups := [] }

/-- The next place of a text. -/
def next? (p : Place) : Option Place := p.step? .all

end Place

/-- A matcher looks for a way from a place to one where `goal` succeeds. -/
abbrev Matcher := Place → (Place → Option Place) → Option Place

/-- One matcher, or the other if the first finds no way. -/
def Matcher.orElse (first second : Matcher) : Matcher := fun p goal =>
  match first p goal with
  | some q => some q
  | none => second p goal

/-- The preferred one of going on and stopping. -/
def choose (greedy : Bool) (go stop : Matcher) : Matcher :=
  if greedy then go.orElse stop else stop.orElse go

/-- Stops where it is. -/
def stay : Matcher := fun p goal => goal p

/-- Further rounds of a repetition.  Each takes a character at least, so there are no more of them
than `fuel`, the length of the text. -/
def rounds (body : Matcher) (greedy : Bool) : (fuel : Nat) → Matcher
  | 0 => stay
  | fuel + 1 => choose greedy
      (fun p goal => body p fun q =>
        if q.position = p.position then none else rounds body greedy fuel q goal)
      stay

/-- One round of a repetition and further ones, unless the first took nothing. -/
def roundsFrom (body : Matcher) (greedy : Bool) : Matcher := fun p goal =>
  body p fun q =>
    if q.position = p.position then goal q else rounds body greedy q.rest.length q goal

/-- The matcher of a pattern. -/
def matcher : Pattern → Matcher
  | .empty => stay
  | .char s => fun p goal => (p.step? s).bind goal
  | .look l => fun p goal => if p.looks l then goal p else none
  | .seq a b => fun p goal => a.matcher p fun q => b.matcher q goal
  | .alt a b => a.matcher.orElse b.matcher
  | .plus a greedy => roundsFrom a.matcher greedy
  | .group i a => fun p goal => a.matcher p fun q => goal (p.close i q)

/-- A match: where it begins and where it ends. -/
structure Found where
  first : Place
  last : Place
  deriving Inhabited, Repr

/-- Took the match no character? -/
def Found.isEmpty (f : Found) : Bool := f.first.position = f.last.position

/-- The text of a group of a match, if it took part. -/
def Found.group? (f : Found) (index : Nat) : Option (List Char) := f.last.groups.lookup index

/-- The first match at a place or after it. -/
def find? (a : Pattern) (before : Option Char) (position : Nat) : List Char → Option Found
  | [] =>
    let p : Place := ⟨position, before, [], []⟩
    (a.matcher p some).map fun q => ⟨p, q⟩
  | c :: rest =>
    let p : Place := ⟨position, before, c :: rest, []⟩
    match a.matcher p some with
    | some q => some ⟨p, q⟩
    | none => find? a (some c) (position + 1) rest

/-- The first match from a place on. -/
def findFrom? (a : Pattern) (p : Place) : Option Found := a.find? p.before p.position p.rest

/-- The first match from a place on that is not empty at the end of the match before. -/
def findNext? (a : Pattern) (lastEnd : Option Nat) (p : Place) : Option Found :=
  match a.findFrom? p with
  | none => none
  | some f =>
    if f.isEmpty && lastEnd = some f.last.position then p.next?.bind a.findFrom?
    else some f

/-- The matches from a place on.  Each ends behind the one before, so there are no more of them than
`fuel`, the length of the text and one. -/
def findAllFrom (a : Pattern) : (fuel : Nat) → Option Nat → Place → List Found
  | 0, _, _ => []
  | fuel + 1, lastEnd, p =>
    match a.findNext? lastEnd p with
    | none => []
    | some f => f :: findAllFrom a fuel (some f.last.position) f.last.fresh

/-- All matches in a text. -/
def findAll (a : Pattern) (text : List Char) : List Found :=
  a.findAllFrom (text.length + 1) none (.start text)

/-- The texts of the groups of a match, in order; empty for one that took no part. -/
def Found.groupTexts (f : Found) (count : Nat) : List (List Char) :=
  (List.range count).map fun i => (f.group? (i + 1)).getD []

end Instrument.Pattern
