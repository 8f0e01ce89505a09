import CloudScaffold.Number.Numeral
/-!
# Binary floating-point numbers

Numbers of 53 significant bits and exponents from -1074 to 971 (IEEE 754 binary64), as a sign, a
whole significand and a power of two. `ofDecimal` rounds a decimal to the nearest of them, ties to
the even significand; everything is exact arithmetic on natural numbers.
-/
namespace CloudScaffold.Number

/-- A floating-point number: `significand * 2 ^ exponent` with a sign, an infinity, or no number. -/
inductive Binary64 where
  | finite (negative : Bool) (significand : Nat) (exponent : Int)
  | infinite (negative : Bool)
  | nan
  deriving DecidableEq, Repr, Inhabited

namespace Binary64

/-- Significands have this many bits. -/
def precision : Nat := 53

def minExponent : Int := -1074

def maxExponent : Int := 971

def zero (negative : Bool) : Binary64 := .finite negative 0 minExponent

/-- A quotient rounded to the nearest whole number, ties to even. -/
def roundQuotient (num den : Nat) : Nat :=
  let q := num / den
  let r := num % den
  if 2 * r < den then q else if den < 2 * r then q + 1 else if q % 2 = 0 then q else q + 1

/-- The quotient `num / den` over `2 ^ e`, rounded. -/
def scaled (num den : Nat) (e : Int) : Nat :=
  if 0 ≤ e then roundQuotient num (den * pow2 e.toNat)
  else roundQuotient (num * pow2 (-e).toNat) den

/-- The number nearest to the positive quotient `num / den`. -/
def ofQuotient (negative : Bool) (num den : Nat) : Binary64 :=
  if num = 0 then zero negative
  else
    let guess : Int := Nat.log2 num - Nat.log2 den - (precision : Int)
    -- the guess is right or one too low
    let e := if num * pow2 (-guess).toNat < den * pow2 (precision + guess.toNat) then guess
      else guess + 1
    let e := max e minExponent
    let m := scaled num den e
    let (m, e) := if m = pow2 precision then (pow2 (precision - 1), e + 1) else (m, e)
    if maxExponent < e then .infinite negative else .finite negative m e

/-- The number nearest to `digits * 10 ^ exp`. Beyond `bound` digits before or after the point the
answer is an infinity or zero. -/
def ofDecimal (negative : Bool) (digits : Nat) (exp : Int) : Binary64 :=
  let bound : Int := 400
  let size : Int := (Nat.toDigits 10 digits).length + exp
  if digits = 0 then zero negative
  else if bound < size then .infinite negative
  else if size < -bound then zero negative
  else if 0 ≤ exp then ofQuotient negative (digits * pow10 exp.toNat) 1
  else ofQuotient negative digits (pow10 (-exp).toNat)

/-- The number nearest to an integer, or none beyond the largest number. -/
def ofInt? (n : Int) : Option Binary64 :=
  match ofDecimal (n < 0) n.natAbs 0 with
  | .infinite _ => none
  | x => some x

/-- A number without its fraction. -/
def truncate : Binary64 → Except NumberError Int
  | .finite negative m e =>
    let n : Int := if 0 ≤ e then m * pow2 e.toNat else (m / pow2 (-e).toNat : Nat)
    .ok (if negative then -n else n)
  | .infinite _ => .error .infinite
  | .nan => .error .notANumber

/-- The number nearest to `n * 2 ^ e`. -/
def ofScaled (n e : Int) : Binary64 :=
  if 0 ≤ e then ofQuotient (n < 0) (n.natAbs * pow2 e.toNat) 1
  else ofQuotient (n < 0) n.natAbs (pow2 (-e).toNat)

def signed (negative : Bool) (m : Nat) : Int := if negative then -(m : Int) else m

/-- The product of two numbers, rounded. -/
def times (x y : Binary64) : Binary64 :=
  match x, y with
  | .finite s m e, .finite t n f =>
    if m * n = 0 then zero (s != t) else ofScaled (signed (s != t) (m * n)) (e + f)
  | .infinite s, .finite t n _ => if n = 0 then .nan else .infinite (s != t)
  | .finite s m _, .infinite t => if m = 0 then .nan else .infinite (s != t)
  | .infinite s, .infinite t => .infinite (s != t)
  | _, _ => .nan

/-- The sum of two numbers, rounded. -/
def plus : Binary64 → Binary64 → Binary64
  | .finite s m e, .finite t n f =>
    let g := min e f
    let sum := signed s m * pow2 (e - g).toNat + signed t n * pow2 (f - g).toNat
    if sum = 0 then zero (s && t) else ofScaled sum g
  | .finite _ _ _, .infinite t => .infinite t
  | .infinite s, .finite _ _ _ => .infinite s
  | .infinite s, .infinite t => if s = t then .infinite s else .nan
  | _, _ => .nan

/-- A number with the other sign. -/
def negate : Binary64 → Binary64
  | .finite s m e => .finite (!s) m e
  | .infinite s => .infinite (!s)
  | .nan => .nan

def isZero : Binary64 → Bool
  | .finite _ m _ => m == 0
  | _ => false

end Binary64

end CloudScaffold.Number
