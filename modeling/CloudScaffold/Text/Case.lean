import CloudScaffold.Text.Case.Table
/-!
# Letter case

`lower`, `upper` and `capitalize` map whole texts by the full Unicode case mappings. One letter
depends on its surroundings: a capital sigma at the end of a word becomes the final small sigma.
-/
namespace CloudScaffold.Text

/-- The place of a letter after a shift, if the shift covers it. -/
def Shift.image? (s : Shift) (n : Nat) : Option Nat :=
  if s.first ≤ n && n ≤ s.last && (n - s.first) % s.stride == 0 then
    some (n + s.distance).toNat
  else none

/-- The mapping of one character: a text of its own, a shift, or the character itself. -/
def mapCase (texts : List (Nat × List Nat)) (shifts : List Shift) (c : Char) : List Char :=
  match texts.lookup c.toNat with
  | some t => t.map .ofNat
  | none => match shifts.findSome? (·.image? c.toNat) with
    | some n => [.ofNat n]
    | none => [c]

/-- The lower case of one character, away from the end of a word. -/
def lowerChar (c : Char) : List Char :=
  if 'A' ≤ c && c ≤ 'Z' then [.ofNat (c.toNat + 32)]
  else if c.toNat < 128 then [c]
  else mapCase lowerTexts lowerShifts c

def upperChar (c : Char) : List Char := mapCase upperTexts upperShifts c

def titleChar (c : Char) : List Char := mapCase (titleTexts ++ upperTexts) upperShifts c

/-- Whether the nearest character that case rules do not look past has case. -/
def nearCased (cs : List Char) : Bool :=
  match cs.dropWhile caseIgnorable.has with
  | [] => false
  | c :: _ => cased.has c

def capitalSigma : Char := .ofNat 0x3a3

def finalSigma : Char := .ofNat 0x3c2

/-- The lower case of a text that follows `before`, which is given backwards. -/
def lowerAfter (before : List Char) : List Char → List Char
  | [] => []
  | c :: r =>
    (if c = capitalSigma && nearCased before && !nearCased r then [finalSigma] else lowerChar c)
      ++ lowerAfter (c :: before) r

def lowerChars (cs : List Char) : List Char := lowerAfter [] cs

def lower (s : String) : String := .ofList (lowerChars s.toList)

def upper (s : String) : String := .ofList (s.toList.flatMap upperChar)

/-- The first character in title case, the others in lower case. -/
def capitalize (s : String) : String :=
  match s.toList with
  | [] => ""
  | c :: r => .ofList (titleChar c ++ lowerAfter [c] r)

end CloudScaffold.Text
