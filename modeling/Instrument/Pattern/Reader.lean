/-
# Reading patterns

The notation of patterns, read from left to right.  What was read is kept as the items of the current
branch and the branches before it, for the current group and for each group around it.

How deep a pattern may be nested is limited here.  The limit on the size of a pattern once it is
compiled is left out: a pattern that can be read is taken however large it becomes.
-/
import Instrument.Pattern.Bracket

namespace Instrument.Pattern

/-- An item of a branch with its depth.  A switch of flags cannot be repeated. -/
structure Item where
  pattern : Pattern
  depth : Nat
  repeatable : Bool
  deriving Inhabited, Repr

/-- What was read of a group: its finished branches and the items of the current one, each with the
latest first. -/
structure Body where
  branches : List Item
  items : List Item
  deriving Inhabited, Repr

/-- A group that is still open: its index, if it is marked, the mode to return to, and what was read
around it. -/
structure Frame where
  index : Option Nat
  mode : Mode
  around : Body
  deriving Repr

/-- How far a pattern was read. -/
structure Progress where
  body : Body
  frames : List Frame
  mode : Mode
  /-- The number of marked groups so far. -/
  groups : Nat
  /-- The names of groups so far. -/
  names : List (List Char)
  deriving Repr

/-- The greatest depth of items. -/
def deepest (items : List Item) : Nat := (items.map (·.depth)).foldl max 0

/-- A branch from its items, the latest first. -/
def branchOf : List Item → Item
  | [] => ⟨.empty, 0, true⟩
  | [a] => a
  | items => ⟨.seqs (items.reverse.map (·.pattern)), deepest items + 1, true⟩

/-- The whole of what was read of a group. -/
def Body.close (b : Body) : Item :=
  match b.branches with
  | [] => branchOf b.items
  | branches =>
    let all := branchOf b.items :: branches
    ⟨.alts (all.reverse.map (·.pattern)), deepest all + 1, true⟩

/-- A body without anything in it. -/
def Body.none : Body := ⟨[], []⟩

/-- A pattern of which nothing was read. -/
def Progress.start (m : Mode) : Progress := ⟨.none, [], m, 0, []⟩

/-- Adds an item to the current branch. -/
def Progress.push (p : Progress) (item : Item) : Progress :=
  { p with body := { p.body with items := item :: p.body.items } }

/-- Adds a pattern without parts to the current branch. -/
def Progress.pushLeaf (p : Progress) (a : Pattern) : Progress := p.push ⟨a, 0, true⟩

/-- The pattern of a character that stands for itself. -/
def Mode.literal (m : Mode) (c : Char) : Pattern := .char (m.fold (.one c))

/-- The pattern of what a backslash began. -/
def Escaped.pattern (m : Mode) : Escaped → Reading Pattern
  | .literal c => .ok (m.literal c)
  | .octet c => if c.toNat < 128 then .ok (m.literal c) else .error .octets
  | .set s => if !m.unicode && s.hasHighOctet then .error .octets else .ok (.char s)
  | .look l => .ok (.look l)

/-- The pattern of a point. -/
def Mode.dot (m : Mode) : Reading Pattern :=
  if !m.unicode then .error .octets
  else if m.dotAll then .ok (.char .all)
  else if m.mixedLines then .ok (.char (.outside (.union (.one '\r') (.one '\n'))))
  else .ok (.char (.outside (.one '\n')))

/-- The place that a circumflex asks for. -/
def Mode.start (m : Mode) : Look :=
  if m.lines then (if m.mixedLines then .mixedLineStart else .lineStart) else .textStart

/-- The place that a dollar sign asks for. -/
def Mode.finish (m : Mode) : Look :=
  if m.lines then (if m.mixedLines then .mixedLineEnd else .lineEnd) else .textEnd

/-- Is the next character a question mark?  It makes a repetition stop early. -/
def readLazy : List Char → Bool × List Char
  | '?' :: rest => (true, rest)
  | rest => (false, rest)

/-- Repeats the last item of the current branch. -/
def Progress.repeatLast (p : Progress) (early : Bool) (low : Nat) (high : Option Nat) :
    Reading Progress :=
  match p.body.items with
  | [] => .error .nothingToRepeat
  | item :: items =>
    if item.repeatable then
      let a := repetition item.pattern (early == p.mode.swapGreed) low high
      .ok { p with body := { p.body with items := ⟨a, item.depth + 1, true⟩ :: items } }
    else .error .nothingToRepeat

/-- The counts of a repetition, after the opening brace. -/
def readCounts (loose : Bool) (cs : List Char) : Reading ((Nat × Option Nat) × List Char) := do
  let (low, rest) ← readCount loose (skip loose cs)
  match rest with
  | '\x7d' :: rest => return ((low, some low), rest)
  | ',' :: rest =>
    match skip loose rest with
    | '\x7d' :: rest => return ((low, none), rest)
    | rest =>
      let (high, rest) ← readCount loose rest
      match rest with
      | '\x7d' :: rest =>
        if low ≤ high then return ((low, some high), rest) else throw .repetitionCount
      | _ => throw .repetitionUnclosed
  | _ => throw .repetitionUnclosed

/-- A repetition with counts. -/
def Progress.repeatCounted (p : Progress) (rest : List Char) : Reading (Progress × List Char) := do
  let ((low, high), rest) ← readCounts p.mode.loose rest
  let (early, rest) := readLazy (skip p.mode.loose rest)
  return (← p.repeatLast early low high, rest)

/-- A repetition without counts. -/
def Progress.repeatMarked (p : Progress) (low : Nat) (high : Option Nat) (rest : List Char) :
    Reading (Progress × List Char) := do
  let (early, rest) := readLazy rest
  return (← p.repeatLast early low high, rest)

/-- A mode with one flag set or cleared. -/
def Mode.set? (m : Mode) (flag : Char) (on : Bool) : Option Mode :=
  match flag with
  | 'i' => some { m with ignoreCase := on }
  | 'm' => some { m with lines := on }
  | 's' => some { m with dotAll := on }
  | 'U' => some { m with swapGreed := on }
  | 'u' => some { m with unicode := on }
  | 'R' => some { m with mixedLines := on }
  | 'x' => some { m with loose := on }
  | _ => none

/-- Reads flags up to a colon or a closing parenthesis, which is given back.  A hyphen, once, clears
the flags after it; no flag is given twice. -/
def readFlags (m : Mode) (clear dangling : Bool) (seen : List Char) :
    List Char → Reading ((Mode × Char) × List Char)
  | [] => .error .flag
  | c :: rest =>
    if c = ':' || c = ')' then if dangling then .error .flag else .ok ((m, c), rest)
    else if c = '-' then if clear then .error .flag else readFlags m true true seen rest
    else
      match m.set? c !clear with
      | some m => if seen.contains c then .error .flag else readFlags m clear false (c :: seen) rest
      | none => .error .flag

/-- May a character begin the name of a group? -/
def isNameStart (c : Char) : Bool :=
  c = '_' || (Text.NamedClass.mk [Text.PropertyTable.alphabetic] false).has c

/-- May a character stand in the name of a group? -/
def isNameChar (c : Char) : Bool :=
  isNameStart c || c = '.' || c = '[' || c = ']' ||
    (Text.NamedClass.mk (["nd", "nl", "no"].map Text.categoryRanges) false).has c

/-- Reads the name of a group and the bracket after it. -/
def readName (cs : List Char) : Reading ((List Char) × List Char) :=
  let name := cs.takeWhile (· ≠ '>')
  match cs.dropWhile (· ≠ '>'), name with
  | '>' :: rest, c :: more =>
    if isNameStart c && more.all isNameChar then .ok (name, rest) else .error .groupName
  | _, _ => .error .groupName

/-- Begins a group. -/
def Progress.open (p : Progress) (index : Option Nat) (m : Mode) : Progress :=
  { p with body := .none, frames := ⟨index, p.mode, p.body⟩ :: p.frames, mode := m }

/-- Begins a marked group. -/
def Progress.openMarked (p : Progress) : Progress :=
  { p with groups := p.groups + 1 }.open (some (p.groups + 1)) p.mode

/-- Begins a marked group with a name. -/
def Progress.openNamed (p : Progress) (cs : List Char) : Reading (Progress × List Char) := do
  let (name, rest) ← readName cs
  if p.names.contains name then throw .groupName
  return ({ p with names := name :: p.names }.openMarked, rest)

/-- Reads what an opening parenthesis begins: a group, or a switch of flags. -/
def Progress.readGroup (p : Progress) (cs : List Char) : Reading (Progress × List Char) :=
  match skip p.mode.loose cs with
  | '?' :: '=' :: _ | '?' :: '!' :: _ | '?' :: '<' :: '=' :: _ | '?' :: '<' :: '!' :: _ =>
    .error .lookaround
  | '?' :: 'P' :: '<' :: rest => p.openNamed rest
  | '?' :: '<' :: rest => p.openNamed rest
  | '?' :: rest => do
    let ((m, ending), after) ← readFlags p.mode false false [] rest
    if ending = ':' then return (p.open none m, after)
    else if rest.head? = some ')' then throw .flag
    else return ({ p with mode := m }.push ⟨.empty, 0, false⟩, after)
  | rest => .ok (p.openMarked, rest)

/-- Ends a group. -/
def Progress.close (p : Progress) : Reading Progress :=
  match p.frames with
  | [] => .error .groupUnopened
  | f :: frames =>
    let inner := p.body.close
    let a := match f.index with
      | some i => .group i inner.pattern
      | none => inner.pattern
    .ok ({ p with body := f.around, frames, mode := f.mode }.push ⟨a, inner.depth + 1, true⟩)

/-- Begins another branch. -/
def Progress.branch (p : Progress) : Progress :=
  { p with body := ⟨branchOf p.body.items :: p.body.branches, []⟩ }

/-- Reads the piece that begins with a character. -/
def Progress.step (p : Progress) (c : Char) (rest : List Char) : Reading (Progress × List Char) :=
  if c = '(' then p.readGroup rest
  else if c = ')' then p.close.map (·, rest)
  else if c = '|' then .ok (p.branch, rest)
  else if c = '[' then (readBracket p.mode rest).map fun (s, rest) =>
    (p.push ⟨.char s.set, s.depth, true⟩, rest)
  else if c = '?' then p.repeatMarked 0 (some 1) rest
  else if c = '*' then p.repeatMarked 0 none rest
  else if c = '+' then p.repeatMarked 1 none rest
  else if c = '\x7b' then p.repeatCounted rest
  else if c = '\\' then do
    let (e, rest) ← readEscape p.mode rest
    return (p.pushLeaf (← e.pattern p.mode), rest)
  else if c = '.' then p.mode.dot.map fun a => (p.pushLeaf a, rest)
  else if c = '^' then .ok (p.pushLeaf (.look p.mode.start), rest)
  else if c = '$' then .ok (p.pushLeaf (.look p.mode.finish), rest)
  else .ok (p.pushLeaf (p.mode.literal c), rest)

/-- Reads a whole text.  Every piece takes a character, so `fuel` need not exceed its length. -/
def Progress.run : (fuel : Nat) → Progress → List Char → Reading Progress
  | 0, p, _ => .ok p
  | fuel + 1, p, cs =>
    match skip p.mode.loose cs with
    | [] => .ok p
    | c :: rest =>
      match p.step c rest with
      | .error e => .error e
      | .ok (p, rest) => p.run fuel rest

/-- The greatest depth of a pattern. -/
def nestingLimit : Nat := 250

/-- The pattern that was read, once all groups are closed. -/
def Progress.finish (p : Progress) : Reading Pattern :=
  if !p.frames.isEmpty then .error .groupUnclosed
  else
    let all := p.body.close
    if nestingLimit < all.depth then .error .nesting else .ok all.pattern

/-- Reads a pattern. -/
def read (m : Mode) (cs : List Char) : Reading Pattern := do
  let p ← (Progress.start m).run cs.length cs
  p.finish

end Instrument.Pattern
