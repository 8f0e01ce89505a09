import CloudScaffold.Text.Base
import CloudScaffold.Text.Blank
import CloudScaffold.Text.Digit
import CloudScaffold.Text.Literal
/-!
# Numerals

A numeral is a sign and digits, between blanks; single low lines may part the digits. Decimal digits
may be those of any script (`readInt`); a numeral in base two, eight or sixteen may have the mark of
its base behind a zero (`readIntIn`). A decimal numeral has at most `digitLimit` digits, read or
written, so that a text cannot make a number that takes long to convert.
-/
namespace CloudScaffold.Number

open CloudScaffold.Text

/-- The most digits that a decimal numeral may have. -/
def digitLimit : Nat := 4300

/-- Why a text or a value gives no number. -/
inductive NumberError where
  | notInteger (base : Nat) (text : String)
  | notDecimal (text : String)
  | tooManyDigits (count : Nat)
  | tooLongToWrite
  | notANumber
  | infinite
  | tooLarge
  deriving DecidableEq, Repr

/-- The most characters of a literal that a message shows. -/
def shownLimit : Nat := 200

/-- That a text, given as a literal, is no whole number in a base. -/
def notIntegerText (base : Nat) (shown : String) : String :=
  s!"invalid literal for int() with base {base}: " ++ .ofList (shown.toList.take shownLimit)

/-- That a text, given as a literal, is no decimal number. -/
def notDecimalText (shown : String) : String := "could not convert string to float: " ++ shown

/-- The wording of a number error. -/
def NumberError.message : NumberError → String
  | notInteger b t => notIntegerText b (literal t)
  | notDecimal t => notDecimalText (literal t)
  | tooManyDigits n =>
    s!"Exceeds the limit ({digitLimit} digits) for integer string conversion: value has {n} " ++
      "digits; use sys.set_int_max_str_digits() to increase the limit"
  | tooLongToWrite =>
    s!"Exceeds the limit ({digitLimit} digits) for integer string conversion; " ++
      "use sys.set_int_max_str_digits() to increase the limit"
  | notANumber => "cannot convert float NaN to integer"
  | infinite => "cannot convert float infinity to integer"
  | tooLarge => "int too large to convert to float"

/-- A power of two. -/
def pow2 (n : Nat) : Nat := Nat.pow 2 n

/-- A power of ten. -/
def pow10 (n : Nat) : Nat := Nat.pow 10 n

/-- The ASCII digit of a value below ten. -/
def digitChar (d : Nat) : Char := .ofNat (48 + d)

/-- One character beyond ASCII, brought down to ASCII: a digit keeps its value, a blank becomes a
space, and any other character becomes one that no numeral holds. -/
def plainChar (c : Char) : Char :=
  if c.toNat < 127 then c
  else if isBlank c then ' '
  else match digitValue? c with
    | some d => digitChar d
    | none => '?'

/-- A text brought down to ASCII; one that is ASCII already stays. -/
def plainChars (cs : List Char) : List Char :=
  if cs.all (·.toNat < 128) then cs else cs.map plainChar

/-- The blanks of ASCII. -/
def isAsciiBlank (c : Char) : Bool := c == ' ' || ('\t' ≤ c && c ≤ '\r')

/-- The value of an ASCII digit. -/
def asciiDigit? (c : Char) : Option Nat :=
  if '0' ≤ c && c ≤ '9' then some (c.toNat - 48) else none

/-- A sign, and what follows it. -/
def splitSign : List Char → Bool × List Char
  | '-' :: r => (true, r)
  | '+' :: r => (false, r)
  | r => (false, r)

/-- The digits of a base at the start, with single low lines between them, and what follows; none if
a low line stands anywhere else. `afterDigit` says whether a digit stands just before. -/
def scanDigits (base : Nat) (afterDigit : Bool) : List Char → Option (List Nat × List Char)
  | [] => some ([], [])
  | c :: r =>
    match digitIn? base c with
    | some d => (scanDigits base true r).map fun p => (d :: p.1, p.2)
    | none =>
      if c = '_' then
        if afterDigit && (r.head?.bind (digitIn? base)).isSome then scanDigits base false r else none
      else some ([], c :: r)

/-- The number that digits of a base write. -/
def ofDigits (base : Nat) (ds : List Nat) : Nat := ds.foldl (fun n d => base * n + d) 0

/-- Whether a letter behind a zero marks a base. -/
def isBaseMark (base : Nat) (c : Char) : Bool :=
  (base == 2 && (c == 'b' || c == 'B')) || (base == 8 && (c == 'o' || c == 'O'))
    || (base == 16 && (c == 'x' || c == 'X'))

/-- A numeral without the mark of its base, behind which a low line may stand. -/
def dropBaseMark (base : Nat) : List Char → List Char
  | '0' :: m :: r =>
    if isBaseMark base m then if r.head? = some '_' then r.tail else r else '0' :: m :: r
  | cs => cs

/-- Reads an integer numeral in a base. -/
def readIntIn (base : Nat) (s : String) : Except NumberError Int :=
  let bad := .error (.notInteger base s)
  let (negative, cs) := splitSign ((plainChars s.toList).dropWhile isAsciiBlank)
  match scanDigits base false (dropBaseMark base cs) with
  | none => bad
  | some (ds, rest) =>
    if base = 10 ∧ digitLimit < ds.length then .error (.tooManyDigits ds.length)
    else if ds.isEmpty || !rest.all isAsciiBlank then bad
    else .ok (if negative then -(ofDigits base ds : Int) else ofDigits base ds)

/-- Reads a decimal integer numeral. -/
def readInt (s : String) : Except NumberError Int := readIntIn 10 s

/-- Writes an integer in decimal digits, without the limit. -/
def showInt (n : Int) : String :=
  if n < 0 then "-" ++ .ofList (Nat.toDigits 10 n.natAbs) else .ofList (Nat.toDigits 10 n.natAbs)

/-- Writes an integer in decimal digits. -/
def writeInt (n : Int) : Except NumberError String :=
  if pow10 digitLimit ≤ n.natAbs then .error .tooLongToWrite else .ok (showInt n)

end CloudScaffold.Number
