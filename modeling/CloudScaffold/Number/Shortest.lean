import CloudScaffold.Number.Binary64
/-!
# Shortest decimals

`shortest x` is the decimal of fewest digits that rounds to the floating-point number `x`, and of
those the one nearest to `x`, the even one of two that are equally near. `Binary64.text` writes it:
positional from 0.0001 up to 16 digits before the point, with an exponent of two digits or more
beyond.
-/
namespace CloudScaffold.Number

/-- `digits * 10 ^ exp`. -/
structure Decimal where
  digits : Nat
  exp : Int
  deriving DecidableEq, Repr, Inhabited

namespace Binary64

/-- The whole part of `m * 2 ^ e / 10 ^ p`, and whether it is the nearer of the two neighbours; of
two that are equally near the even one counts. -/
def decimalGrid (m : Nat) (e p : Int) : Nat × Bool :=
  let num := m * pow2 e.toNat * pow10 (-p).toNat
  let den := pow2 (-e).toNat * pow10 p.toNat
  let (q, rest) := (num / den, num % den)
  (q, 2 * rest < den || (2 * rest = den && q % 2 = 0))

/-- The number of digits before the point of `m * 2 ^ e`, for numbers of one or more. -/
def wholeDigits (m : Nat) (e : Int) : Nat :=
  (Nat.toDigits 10 (decimalGrid m e 0).1).length

/-- The place of the first digit: `10 ^ (place - 1) ≤ m * 2 ^ e < 10 ^ place`. -/
def place (m : Nat) (e : Int) : Int :=
  if (decimalGrid m e 0).1 ≠ 0 then wholeDigits m e
  else
    -- shift by enough places that a whole part shows
    (Nat.toDigits 10 (decimalGrid m e (-400)).1).length - 400

/-- The nearer of the two neighbours of `x` on the grid of `n` digits that rounds to `x`. -/
def onGrid? (x : Binary64) (m : Nat) (e : Int) (n : Nat) : Option Decimal :=
  let p := place m e - n
  let (q, low) := decimalGrid m e p
  let reads (d : Nat) := ofDecimal (match x with | .finite s _ _ => s | _ => false) d p == x
  match low, reads q, reads (q + 1) with
  | true, true, _ => some ⟨q, p⟩
  | true, false, true => some ⟨q + 1, p⟩
  | false, _, true => some ⟨q + 1, p⟩
  | false, true, false => some ⟨q, p⟩
  | _, false, false => none

/-- The shortest decimal among those of `n`, `n + 1`, … digits. -/
def shortestFrom (x : Binary64) (m : Nat) (e : Int) : Nat → Nat → Decimal
  | _, 0 => ⟨m, 0⟩
  | n, tries + 1 => (onGrid? x m e n).getD (shortestFrom x m e (n + 1) tries)

/-- The fewest digits that round to `x`; seventeen are always enough. -/
def shortest (x : Binary64) (m : Nat) (e : Int) : Decimal := shortestFrom x m e 1 17

/-- The digits of a decimal without the zeros at the end, and the place of the first of them. -/
def significant (d : Decimal) : List Char × Int :=
  let ds := Nat.toDigits 10 d.digits
  ((ds.reverse.dropWhile (· == '0')).reverse, ds.length + d.exp)

/-- Digits with their point after `place` of them. -/
def positional (ds : List Char) (place : Int) : List Char :=
  if place ≤ 0 then '0' :: '.' :: List.replicate (-place).toNat '0' ++ ds
  else
    let n := place.toNat
    let whole := ds.take n ++ List.replicate (n - ds.length) '0'
    let rest := ds.drop n
    whole ++ '.' :: (if rest.isEmpty then ['0'] else rest)

/-- Digits with a point after the first and an exponent. -/
def exponential (ds : List Char) (place : Int) : List Char :=
  let e := place - 1
  let es := Nat.toDigits 10 e.natAbs
  let whole := match ds with
    | [] => ['0']
    | [d] => [d]
    | d :: r => d :: '.' :: r
  whole ++ 'e' :: (if e < 0 then '-' else '+') :: List.replicate (2 - es.length) '0' ++ es

/-- A floating-point number as text. -/
def text : Binary64 → String
  | .nan => "nan"
  | .infinite false => "inf"
  | .infinite true => "-inf"
  | .finite s m e =>
    let sign := if s then ['-'] else []
    if m = 0 then .ofList (sign ++ ['0', '.', '0'])
    else
      let (ds, place) := significant (shortest (.finite s m e) m e)
      .ofList (sign ++ if -4 < place && place ≤ 16 then positional ds place
        else exponential ds place)

end Binary64

/-- The signs of a decimal: its digits before and after the point, and its exponent. -/
structure DecimalText where
  whole : List Nat
  fraction : List Nat
  exp : Int

/-- The ASCII digits at the start, and what follows. -/
def takeDigits (cs : List Char) : List Nat × List Char :=
  ((cs.takeWhile fun c => (asciiDigit? c).isSome).filterMap asciiDigit?,
    cs.dropWhile fun c => (asciiDigit? c).isSome)

/-- The exponent at the start, if one is there, and what follows. -/
def takeExponent (cs : List Char) : Int × List Char :=
  match cs with
  | c :: r =>
    if c = 'e' || c = 'E' then
      let (negative, r') := splitSign r
      match takeDigits r' with
      | ([], _) => (0, cs)
      | (ds, rest) => (if negative then -(ofDigits 10 ds : Int) else ofDigits 10 ds, rest)
    else (0, cs)
  | [] => (0, [])

/-- A decimal without sign, with a digit at least, and what follows. -/
def takeDecimal? (cs : List Char) : Option (DecimalText × List Char) :=
  let (whole, r) := takeDigits cs
  let (fraction, r) := match r with
    | '.' :: r' => takeDigits r'
    | _ => ([], r)
  if whole.isEmpty && fraction.isEmpty then none
  else
    let (exp, rest) := takeExponent r
    some (⟨whole, fraction, exp⟩, rest)

/-- Whether every low line stands between two digits. -/
def lowLinesBetweenDigits (afterDigit : Bool) : List Char → Bool
  | [] => true
  | c :: r =>
    if c = '_' then
      afterDigit && (r.head?.bind asciiDigit?).isSome && lowLinesBetweenDigits false r
    else lowLinesBetweenDigits (asciiDigit? c).isSome r

/-- Reads the decimal that is the whole text, an infinity, or "nan". -/
def decimalOfChars? (cs : List Char) : Option Binary64 :=
  let (negative, r) := splitSign cs
  let word := String.ofList (r.map Char.toLower)
  if word = "inf" || word = "infinity" then some (.infinite negative)
  else if word = "nan" then some .nan
  else match takeDecimal? r with
    | some (d, []) =>
      some (.ofDecimal negative (ofDigits 10 (d.whole ++ d.fraction)) (d.exp - d.fraction.length))
    | _ => none

/-- Reads a floating-point number, between blanks; single low lines may part digits. -/
def readDecimal (s : String) : Except NumberError Binary64 :=
  let cs := (plainChars s.toList).dropWhile isAsciiBlank
  let cs := (cs.reverse.dropWhile isAsciiBlank).reverse
  let bare := cs.filter (· != '_')
  match lowLinesBetweenDigits false cs, decimalOfChars? bare with
  | true, some x => .ok x
  | _, _ => .error (.notDecimal s)

end CloudScaffold.Number
