import CloudScaffold.Number.Numeral
import CloudScaffold.Text.Points
/-!
# Faults of YAML texts

A text can go wrong on every level: in its characters, its tokens, the order of its tokens, its
aliases, and in what a scalar says.
-/
namespace CloudScaffold.Yaml

open Number Text

/-- What is wrong with a date or a time. -/
inductive DateFault where
  | year
  | month
  | day
  | hour
  | minute
  | second
  /-- An offset from universal time of a day or more, in seconds. -/
  | offset (seconds : Int)
  deriving DecidableEq, Repr

inductive Fault where
  /-- A character that no text may hold. -/
  | character
  /-- No token can be read. -/
  | token
  /-- A token where it may not stand. -/
  | grammar
  /-- An alias without its anchor, an anchor that occurs twice, or a second document. -/
  | reference
  /-- A tag that does not go with its node, or a key that cannot be one. -/
  | content
  /-- A text that is no truth value, though its tag says so. -/
  | noBoolean (text : Points)
  /-- An empty text in place of a number. -/
  | noNumeral
  | number (cause : NumberError)
  /-- A text that is no whole number in a base. -/
  | notInteger (base : Nat) (text : Points)
  | notDecimal (text : Points)
  /-- A text that is no date, though its tag says so. -/
  | noDate
  | date (cause : DateFault)
  /-- A mapping in place of the text of a date. -/
  | noText
  /-- A number that is no code point. -/
  | noCharacter
  /-- A number too large for its use: for a code point that needs a word, or for a decimal. -/
  | tooLarge
  /-- Nodes inside nodes, too many of them. -/
  | tooDeep
  deriving DecidableEq, Repr

/-- An interval of time in days and seconds, written out. -/
def intervalText (seconds : Int) : String :=
  let days := seconds / 86400
  let rest := seconds % 86400
  let part (n : String) (v : Int) : List String := if v = 0 then [] else [n ++ "=" ++ showInt v]
  let parts := part "days" days ++ part "seconds" rest
  "datetime.timedelta(" ++ (if parts.isEmpty then "0" else ", ".intercalate parts) ++ ")"

def DateFault.message : DateFault → String
  | year => "year 0 is out of range"
  | month => "month must be in 1..12"
  | day => "day is out of range for month"
  | hour => "hour must be in 0..23"
  | minute => "minute must be in 0..59"
  | second => "second must be in 0..59"
  | offset s =>
    "offset must be a timedelta strictly between -timedelta(hours=24) and timedelta(hours=24), not "
      ++ intervalText s ++ "."

/-- The wording of a fault, for those whose wording matters. -/
def Fault.message : Fault → String
  | noBoolean t => t.literal
  | number e => e.message
  | notInteger b t => notIntegerText b t.literal
  | notDecimal t => notDecimalText t.literal
  | date e => e.message
  | noCharacter => "chr() arg not in range(0x110000)"
  | _ => "The text cannot be read"

end CloudScaffold.Yaml
