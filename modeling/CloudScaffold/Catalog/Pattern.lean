import CloudScaffold.Text.Digit
import CloudScaffold.Text.Word
/-!
# Value patterns

The forms that a text field may ask for. Digits are those of any script; `accepts` asks that the
whole text has the form. `source` is the pattern as a schema spells it, and `ofSource?` reads that
spelling (`ofSource?_source`).

They are the patterns that TerraForge's catalog gives its fields, of which `_check_value` asks that they
match the whole text.
-/
namespace CloudScaffold

open Text

/-- The form of a field's text. -/
inductive Pattern where
  /-- Any text; the empty pattern asks for nothing. -/
  | anything
  /-- One digit or more. -/
  | digits
  /-- One digit or more and the letter s. -/
  | seconds
  /-- Four groups of one to three digits with points between them, a slash, one or two digits. -/
  | cidr
  /-- Three to twenty-four lower-case ASCII letters and ASCII digits. -/
  | storageName
  deriving DecidableEq, Repr

namespace Pattern

def source : Pattern → String
  | anything => ""
  | digits => "\\d+"
  | seconds => "\\d+s"
  | cidr => "\\d\x7b1,3\x7d(\\.\\d\x7b1,3\x7d)\x7b3\x7d/\\d\x7b1,2\x7d"
  | storageName => "[a-z0-9]\x7b3,24\x7d"

def all : List Pattern := [anything, digits, seconds, cidr, storageName]

def ofSource? (s : String) : Option Pattern := all.find? fun p => p.source == s

/-- What follows the digits at the start, if there are `lo` to `hi` of them. -/
def afterDigits? (lo hi : Nat) (cs : List Char) : Option (List Char) :=
  let n := (cs.takeWhile isDigit).length
  if lo ≤ n && n ≤ hi then some (cs.drop n) else none

/-- What follows a character that must stand at the start. -/
def after? (c : Char) : List Char → Option (List Char)
  | d :: r => if d = c then some r else none
  | [] => none

/-- A point and one to three digits. -/
def afterGroup? (cs : List Char) : Option (List Char) := do
  afterDigits? 1 3 (← after? '.' cs)

/-- An address block: the rest after it. -/
def afterCidr? (cs : List Char) : Option (List Char) := do
  let r ← afterDigits? 1 3 cs
  let r ← afterGroup? r
  let r ← afterGroup? r
  let r ← afterGroup? r
  afterDigits? 1 2 (← after? '/' r)

def isDigits (cs : List Char) : Bool := !cs.isEmpty && cs.all isDigit

def isStorageChar (c : Char) : Bool := isAsciiLower c || isAsciiDigit c

/-- Whether a whole text has the form. -/
def matchesChars : Pattern → List Char → Bool
  | anything, _ => true
  | digits, cs => isDigits cs
  | seconds, cs => cs.getLast? == some 's' && isDigits cs.dropLast
  | cidr, cs => afterCidr? cs == some []
  | storageName, cs => 3 ≤ cs.length && cs.length ≤ 24 && cs.all isStorageChar

def accepts (p : Pattern) (s : String) : Bool := p.matchesChars s.toList

theorem ofSource?_source (p : Pattern) : ofSource? p.source = some p := by
  cases p <;> decide +kernel

end Pattern

end CloudScaffold
