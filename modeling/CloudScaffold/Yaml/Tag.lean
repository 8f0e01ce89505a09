import CloudScaffold.Text.Parts
import CloudScaffold.Yaml.Token
/-!
# Tags of plain scalars

A plain scalar without a tag is read for what it looks like: a truth value, a number, a date, null,
or else a text. The forms are those of YAML 1.1: whole numbers may be binary, octal, hexadecimal or
in base sixty with colons, and low lines may part digits. Of two forms that fit, the first in
`forms` counts.
-/
namespace CloudScaffold.Yaml

/-- The tag of a node. -/
inductive Tag where
  | null
  | bool
  | int
  | float
  | timestamp
  | str
  | binary
  | seq
  | map
  /-- A mapping without values. -/
  | set
  /-- A sequence of mappings that have one entry each. -/
  | pairs
  /-- The key that merges mappings. -/
  | merge
  /-- The key of a default value. -/
  | value
  | other (uri : String)
  deriving DecidableEq, Repr

namespace Tag

/-- What the tags of YAML itself start with. -/
def lead : String := "tag:yaml.org,2002:"

/-- The tags of YAML itself that nodes may carry, by name. -/
def core : List (String × Tag) :=
  [("null", null), ("bool", bool), ("int", int), ("float", float), ("timestamp", timestamp),
   ("str", str), ("binary", binary), ("seq", seq), ("map", map), ("merge", merge),
   ("value", value), ("set", set), ("pairs", pairs), ("omap", pairs)]

/-- The tag of a name in full. -/
def ofUri (uri : String) : Tag :=
  match core.find? fun t => lead ++ t.1 == uri with
  | some t => t.2
  | none => other uri

/-- Whether a tag is one of atoms. -/
def isAtomic : Tag → Bool
  | .null | .bool | .int | .float | .timestamp | .str | .binary => true
  | _ => false

/-- Whether a tag is one of collections. -/
def isCollective : Tag → Bool
  | .seq | .map | .set | .pairs => true
  | _ => false

end Tag

/-! ## Forms

A form takes the start of a text and returns what may follow it; a text has a form when nothing is
left. -/

abbrev Chars := List Char

def isDigitOrLow (c : Char) : Bool := c.isDigit || c == '_'

/-- A text without a sign at its start. -/
def dropSign : Chars → Chars
  | '+' :: r | '-' :: r => r
  | r => r

/-- A text that starts with a character of a kind, and goes on with characters of another. -/
def startsThen (first others : Char → Bool) : Chars → Bool
  | [] => false
  | c :: r => first c && r.all others

/-- A part in base sixty behind its colon: one digit, or two of which the first is at most five. -/
def isSixtieth : Chars → Bool
  | [a] => a.isDigit
  | [a, b] => '0' ≤ a && a ≤ '5' && b.isDigit
  | _ => false

/-- Parts in base sixty, the first of a form of its own, and at least one more. -/
def isSixtieths (first : Chars → Bool) (cs : Chars) : Bool :=
  match Text.partsAt ':' cs with
  | p :: q :: r => first p && (q :: r).all isSixtieth
  | _ => false

def isBoolean (cs : Chars) : Bool :=
  ["yes", "Yes", "YES", "no", "No", "NO", "true", "True", "TRUE", "false", "False", "FALSE",
   "on", "On", "ON", "off", "Off", "OFF"].contains (String.ofList cs)

def isNull (cs : Chars) : Bool := ["", "~", "null", "Null", "NULL"].contains (String.ofList cs)

/-- The exponent of a decimal, which has a sign; the empty text counts. -/
def isExponent : Chars → Bool
  | [] => true
  | e :: s :: d :: r =>
    (e == 'e' || e == 'E') && (s == '+' || s == '-') && (d :: r).all Char.isDigit
  | _ => false

def isFloat (cs : Chars) : Bool :=
  let unsigned := dropSign cs
  if [".inf", ".Inf", ".INF"].contains (String.ofList unsigned) then true
  else if [".nan", ".NaN", ".NAN"].contains (String.ofList cs) then true
  else match Text.cutAt? '.' unsigned with
    | none => false
    | some (whole, r) =>
      let exponent := r.dropWhile isDigitOrLow
      if whole.isEmpty then
        unsigned.length = cs.length && r.head?.any Char.isDigit && isExponent exponent
      else if startsThen Char.isDigit isDigitOrLow whole then isExponent exponent
      else isSixtieths (startsThen Char.isDigit isDigitOrLow) whole && exponent.isEmpty

def isNonZero (c : Char) : Bool := c.isDigit && c != '0'

/-- Whether a text is a whole number behind its sign. -/
def isUnsignedInt : Chars → Bool
  | '0' :: 'b' :: r => !r.isEmpty && r.all fun c => c == '0' || c == '1' || c == '_'
  | '0' :: 'x' :: r => !r.isEmpty && r.all fun c => (Text.digitIn? 16 c).isSome || c == '_'
  | '0' :: r => r.all fun c => ('0' ≤ c && c ≤ '7') || c == '_'
  | cs => startsThen isNonZero isDigitOrLow cs
    || isSixtieths (startsThen isNonZero isDigitOrLow) cs

def isInt (cs : Chars) : Bool := isUnsignedInt (dropSign cs)

/-- Digits of a count between two bounds at the start, and what follows. -/
def takeCount (least most : Nat) (cs : Chars) : Option (Chars × Chars) :=
  let n := min most (cs.takeWhile Char.isDigit).length
  if least ≤ n then some (cs.take n, cs.drop n) else none

/-- A character at the start, and what follows. -/
def dropChar (c : Char) : Chars → Option Chars
  | d :: r => if d = c then some r else none
  | [] => none

/-- A date or a time, in the digits that were written. -/
structure Stamp where
  year : Chars
  month : Chars
  day : Chars
  /-- Hour, minute, second. -/
  clock : Option (Chars × Chars × Chars) := none
  fraction : Chars := []
  /-- The sign, the hours and the minutes of an offset, unless it is universal time. -/
  offset : Option (Option (Char × Chars × Chars)) := none
  deriving Repr

/-- Two digits behind a colon at the start; none counts too. -/
def takeMinutes (cs : Chars) : Option (Chars × Chars) :=
  match dropChar ':' cs with
  | some r => takeCount 2 2 r
  | none => some ([], cs)

/-- The zone of a time, up to its end. -/
def takeZone (cs : Chars) : Option (Option (Option (Char × Chars × Chars))) := do
  match cs.dropWhile fun c => c == ' ' || c == '\t' with
  | [] => if cs.isEmpty then some none else none
  | ['Z'] => some (some none)
  | s :: r =>
    if s = '+' || s = '-' then
      let (hours, r) ← takeCount 1 2 r
      let (minutes, r) ← takeMinutes r
      if r.isEmpty then some (some (some (s, hours, minutes))) else none
    else none

/-- The fraction of a second behind its point; none counts too. -/
def takeFraction (cs : Chars) : Chars × Chars :=
  match cs with
  | '.' :: r => (r.takeWhile Char.isDigit, r.dropWhile Char.isDigit)
  | _ => ([], cs)

/-- What stands between a date and its time. -/
def dropTimeMark : Chars → Option Chars
  | 'T' :: r | 't' :: r => some r
  | cs =>
    let r := cs.dropWhile fun c => c == ' ' || c == '\t'
    if r.length = cs.length then none else some r

/-- The date or time that a text is. `short` says that a date alone may have months and days of one
digit. -/
def stamp? (short : Bool) (cs : Chars) : Option Stamp := do
  let (year, r) ← takeCount 4 4 cs
  let (month, r) ← takeCount 1 2 (← dropChar '-' r)
  let (day, r) ← takeCount 1 2 (← dropChar '-' r)
  if r.isEmpty then
    if short || (month.length = 2 && day.length = 2) then
      some { year := year, month := month, day := day }
    else none
  else
    let (hour, r) ← takeCount 1 2 (← dropTimeMark r)
    let (minute, r) ← takeCount 2 2 (← dropChar ':' r)
    let (second, r) ← takeCount 2 2 (← dropChar ':' r)
    let (fraction, r) := takeFraction r
    let zone ← takeZone r
    some { year := year, month := month, day := day, clock := some (hour, minute, second)
           fraction := fraction, offset := zone }

/-- A text without a line break at its end, unless it is nothing else: no form minds that break. -/
def dropLastBreak (cs : Chars) : Chars :=
  if cs.length ≠ 1 ∧ cs.getLast? = some '\n' then cs.dropLast else cs

/-- The tag of an indicator in place of a scalar, which no node may have. -/
def indicatorTag : Tag := .other (Tag.lead ++ "yaml")

/-- The forms of plain scalars. -/
def forms : List (Tag × (Chars → Bool)) :=
  [(.bool, isBoolean), (.float, isFloat), (.int, isInt), (.merge, fun cs => cs == ['<', '<']),
   (.null, isNull), (.timestamp, fun cs => (stamp? false cs).isSome),
   (.value, fun cs => cs == ['=']),
   (indicatorTag, fun cs => [['!'], ['&'], ['*']].contains cs)]

/-- The tag of a plain scalar. -/
def tagOfPlain (text : Text.Points) : Tag :=
  let cs := dropLastBreak text.chars
  match forms.find? fun f => f.2 cs with
  | some f => f.1
  | none => .str

end CloudScaffold.Yaml
