/-
# Classes of characters

Digits, word characters and printable characters, and the classes that Unicode names: general
categories with their groups, scripts and a few properties.  Names are compared without regard to
case, blanks, hyphens and underscores.
-/
import Instrument.Text.Ranges
import Instrument.Text.CategoryTable
import Instrument.Text.PropertyTable
import Instrument.Text.ScriptTable
import Instrument.Text.Blank

namespace Instrument.Text

open CategoryTable

/-- Decimal digits of any script. -/
def isDecimalDigit (c : Char) : Bool := inRanges c.toNat nd

/-- Word characters: letters, marks, decimal digits, connectors and joiners. -/
def isWordChar (c : Char) : Bool := inRanges c.toNat PropertyTable.word

/-- Characters that only occur attached to another. -/
def isGraphemeExtend (c : Char) : Bool := inRanges c.toNat PropertyTable.graphemeExtend

/-- A general category by its two letters and its long name. -/
def categories : List (String × String × List (Nat × Nat)) :=
  [("lu", "uppercaseletter", lu), ("ll", "lowercaseletter", ll), ("lt", "titlecaseletter", lt),
   ("lm", "modifierletter", lm), ("lo", "otherletter", lo), ("mn", "nonspacingmark", mn),
   ("mc", "spacingmark", mc), ("me", "enclosingmark", me), ("nd", "decimalnumber", nd),
   ("nl", "letternumber", nl), ("no", "othernumber", no), ("pc", "connectorpunctuation", pc),
   ("pd", "dashpunctuation", pd), ("ps", "openpunctuation", ps), ("pe", "closepunctuation", pe),
   ("pi", "initialpunctuation", CategoryTable.pi), ("pf", "finalpunctuation", pf),
   ("po", "otherpunctuation", po), ("sm", "mathsymbol", sm), ("sc", "currencysymbol", sc),
   ("sk", "modifiersymbol", sk), ("so", "othersymbol", so), ("zs", "spaceseparator", zs),
   ("zl", "lineseparator", zl), ("zp", "paragraphseparator", zp), ("cc", "control", cc),
   ("cf", "format", cf), ("cs", "surrogate", cs), ("co", "privateuse", co)]

/-- Groups of general categories: their short and long names and the first letters in common. -/
def categoryGroups : List (String × String × List String) :=
  [("l", "letter", ["lu", "ll", "lt", "lm", "lo"]), ("lc", "casedletter", ["lu", "ll", "lt"]),
   ("m", "mark", ["mn", "mc", "me"]), ("n", "number", ["nd", "nl", "no"]),
   ("p", "punctuation", ["pc", "pd", "ps", "pe", "pi", "pf", "po"]),
   ("s", "symbol", ["sm", "sc", "sk", "so"]), ("z", "separator", ["zs", "zl", "zp"])]

/-- Other names of categories and groups. -/
def categoryAliases : List (String × String) :=
  [("digit", "nd"), ("punct", "p"), ("cntrl", "cc"), ("combiningmark", "m")]

/-- A class of characters by its ranges, or by the ranges outside of it. -/
structure NamedClass where
  ranges : List (List (Nat × Nat))
  outside : Bool := false
  deriving Repr

/-- Does a named class hold `c`? -/
def NamedClass.has (k : NamedClass) (c : Char) : Bool :=
  (k.ranges.any (inRanges c.toNat)) != k.outside

/-- The ranges of a category by its two letters. -/
def categoryRanges (code : String) : List (Nat × Nat) :=
  ((categories.lookup code).map Prod.snd).getD []

/-- Code points that are assigned to a character. -/
def assigned : List (List (Nat × Nat)) := categories.map fun (_, _, rs) => rs

/-- The general category or group of a name in simple form. -/
def categoryClass? (name : String) : Option NamedClass :=
  let name := (categoryAliases.lookup name).getD name
  match categories.find? fun (short, long, _) => short = name || long = name with
  | some (_, _, rs) => some ⟨[rs], false⟩
  | none =>
    match categoryGroups.find? fun (short, long, _) => short = name || long = name with
    | some (_, _, codes) => some ⟨codes.map categoryRanges, false⟩
    | none =>
      if name = "any" then some ⟨[[(0, 0x10FFFF)]], false⟩
      else if name = "ascii" then some ⟨[[(0, 0x7F)]], false⟩
      else if name = "assigned" then some ⟨assigned, false⟩
      else if name = "cn" || name = "unassigned" then some ⟨assigned, true⟩
      else if name = "c" || name = "other" then
        some ⟨(categories.filter fun (short, _, _) => short.toList.head? ≠ some 'c').map
          fun (_, _, rs) => rs, true⟩
      else none

/-- A name without regard to case, blanks, hyphens and underscores. -/
def simpleName (cs : List Char) : String :=
  let kept := cs.filter fun c => !(isBlank c || c = '_' || c = '-')
  let kept := kept.map Char.toLower
  String.ofList (if kept.take 2 = ['i', 's'] && 2 < kept.length then kept.drop 2 else kept)

/-- The script of a name in simple form. -/
def scriptClass? (name : String) : Option NamedClass :=
  (scripts.find? fun (long, short, _) =>
      simpleName long.toList = name || simpleName short.toList = name).map
    fun (_, _, rs) => ⟨[rs], false⟩

/-- A property, not a category or script, of a name in simple form. -/
def propertyClass? (name : String) : Option NamedClass :=
  if name = "alphabetic" || name = "alpha" then some ⟨[PropertyTable.alphabetic], false⟩
  else if name = "uppercase" || name = "upper" then some ⟨[PropertyTable.uppercase], false⟩
  else if name = "lowercase" || name = "lower" then some ⟨[PropertyTable.lowercase], false⟩
  else if name = "whitespace" || name = "wspace" || name = "space" then
    some ⟨[blankRanges], false⟩
  else if name = "graphemeextend" || name = "grext" then
    some ⟨[PropertyTable.graphemeExtend], false⟩
  else none

/-- The class of a name: a property, a category or a script. -/
def namedClass? (name : List Char) : Option NamedClass :=
  let name := simpleName name
  (propertyClass? name).or ((categoryClass? name).or (scriptClass? name))

/-- The class of a name whose kind is given by a key. -/
def keyedClass? (key name : List Char) : Option NamedClass :=
  let key := simpleName key
  let name := simpleName name
  if key = "generalcategory" || key = "gc" then categoryClass? name
  else if key = "script" || key = "sc" || key = "scriptextensions" || key = "scx" then
    scriptClass? name
  else none

/-- The categories whose characters show. -/
def printable : List (List (Nat × Nat)) :=
  (categories.filter fun (short, _, _) =>
      match short.toList.head? with
      | some 'c' => false
      | some 'z' => false
      | _ => true).map fun (_, _, rs) => rs

/-- Characters that show, and the blank. -/
def isPrintable (c : Char) : Bool := c = ' ' || printable.any (inRanges c.toNat)

end Instrument.Text
