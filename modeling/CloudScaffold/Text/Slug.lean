import CloudScaffold.Text.Case
import CloudScaffold.Text.Word
import CloudScaffold.Text.Blank
import CloudScaffold.Text.Parts
/-!
# Slugs

A slug is a text as an identifier: the runs of lower-case ASCII letters and digits of its lower
case, joined by low lines, with `r_` in front if it would start with a digit. A text without such a
run has the empty slug. `titleWords` goes the other way: an identifier as words.

`slug` is TerraForge's `slugify` of a text and `titleWords` its `describe_field`. `slugify` replaces,
strips and squeezes; `slugChars_eq_inTurn` says that this comes to the same.
-/
namespace CloudScaffold.Text

def isSlugChar (c : Char) : Bool := isAsciiLower c || isAsciiDigit c

/-- The maximal runs of characters with a property. -/
def runs (p : Char → Bool) : List Char → List (List Char)
  | [] => []
  | c :: r =>
    if p c then
      match r.head?.any p, runs p r with
      | true, w :: ws => (c :: w) :: ws
      | _, ws => [c] :: ws
    else runs p r

/-- Runs joined by low lines. -/
def joinRuns : List (List Char) → List Char
  | [] => []
  | [w] => w
  | w :: ws => w ++ '_' :: joinRuns ws

/-- An identifier must not start with a digit. -/
def guardDigit (cs : List Char) : List Char :=
  if cs.head?.any isAsciiDigit then 'r' :: '_' :: cs else cs

def slugChars (cs : List Char) : List Char :=
  guardDigit (joinRuns (runs isSlugChar (lowerChars (trimChars cs))))

def slug (s : String) : String := .ofList (slugChars s.toList)

/-- The parts of an identifier as capitalised words. -/
def titleWords (s : String) : String :=
  " ".intercalate ((partsAt '_' s.toList).map fun w => capitalize (.ofList w))

end CloudScaffold.Text
