import CloudScaffold.Number.Shortest
import CloudScaffold.Yaml.Binary
import CloudScaffold.Yaml.Date
import CloudScaffold.Yaml.Node
/-!
# Atoms

An atom is a datum without parts: what a scalar says by its tag (`Atom.ofText`). Atoms are the keys
of mappings; as keys, numbers that are equal are one, and so are times of one instant (`sameKey`).

`Atom.write` is how an atom reads as a text, and `Atom.literal` how it reads inside a collection.
-/
namespace CloudScaffold.Yaml

open Number Text

inductive Atom where
  | null
  | bool (b : Bool)
  | int (n : Int)
  | float (x : Binary64)
  /-- No number: the one that all nodes share that write it as `.nan`, or one that a node makes for
  itself. -/
  | nan (maker : Option NodeId)
  | str (s : Points)
  | date (d : Date)
  | time (t : Time)
  | bytes (bs : List Nat)
  deriving Inhabited, Repr

namespace Atom

/-- How an atom reads inside a collection, unless it is a number too long to be written. -/
def literal : Atom → Except NumberError String
  | null => .ok "None"
  | bool b => .ok (if b then "True" else "False")
  | int n => writeInt n
  | float x => .ok x.text
  | nan _ => .ok Binary64.nan.text
  | str s => .ok s.literal
  | date d => .ok d.literal
  | time t => .ok t.literal
  | bytes bs => .ok (bytesLiteral bs)

/-- The text of an atom, unless it is a number too long to be written. -/
def write : Atom → Except NumberError String
  | str s => .ok s.toString
  | date d => .ok d.text
  | time t => .ok t.text
  | a => a.literal

/-- Whether an atom counts as given. -/
def truthy : Atom → Bool
  | null => false
  | bool b => b
  | int n => n != 0
  | float x => !x.isZero
  | str s => !s.isEmpty
  | bytes bs => !bs.isEmpty
  | nan _ | date _ | time _ => true

/-- The exact value of a number, as a whole number over a power of two. -/
def number? : Atom → Option (Int × Nat)
  | bool b => some (if b then 1 else 0, 0)
  | int n => some (n, 0)
  | float (.finite s m e) =>
    some (if 0 ≤ e then (Binary64.signed s m * pow2 e.toNat, 0)
      else (Binary64.signed s m, (-e).toNat))
  | _ => none

/-- Whether two atoms are the same key. -/
def sameKey (a b : Atom) : Bool :=
  match a.number?, b.number? with
  | some (m, i), some (n, j) => m * pow2 j == n * pow2 i
  | none, none => match a, b with
    | null, null => true
    | float (.infinite s), float (.infinite t) => s == t
    | nan m, nan n => m == n
    | str s, str t => s == t
    | bytes s, bytes t => s == t
    | date c, date d => c == d
    | time s, time t => s.isSame t
    | _, _ => false
  | _, _ => false

end Atom

/-! ## Scalars by tag -/

def boolOf (text : Points) : Except Fault Atom :=
  let t := text.lower
  let word := String.ofList t.chars
  if ["yes", "true", "on"].contains word then .ok (.bool true)
  else if ["no", "false", "off"].contains word then .ok (.bool false)
  else .error (.noBoolean t)

/-- A sign at the start, and what follows; nothing at all is a fault. -/
def takeSign (text : Points) : Except Fault (Bool × Points) :=
  match text.chars with
  | [] => .error .noNumeral
  | '-' :: _ => .ok (true, text.tail)
  | '+' :: _ => .ok (false, text.tail)
  | _ => .ok (false, text)

/-- The whole number that a text is in a base. -/
def wholeOf (base : Nat) (text : Points) : Except Fault Int :=
  match readIntIn base (.ofList text.chars) with
  | .ok n => .ok n
  | .error (.notInteger _ _) => .error (.notInteger base text)
  | .error e => .error (.number e)

/-- The decimal that a text is. -/
def decimalOf (text : Points) : Except Fault Binary64 :=
  (readDecimal (.ofList text.chars)).mapError fun _ => .notDecimal text

/-- The parts of a text between colons. -/
def colonParts (text : Points) : List Points := partsAt ':'.toNat text

/-- Whole numbers in base sixty, the highest first. -/
def sixtiethsOf (text : Points) : Except Fault Int := do
  let ns ← (colonParts text).mapM (wholeOf 10)
  .ok (ns.foldl (fun n d => 60 * n + d) 0)

/-- A whole number without its sign. -/
def unsignedOf (text : Points) : Except Fault Int :=
  match text.chars with
  | [] => .error .noNumeral
  | ['0'] => .ok 0
  | '0' :: 'b' :: _ => wholeOf 2 (text.drop 2)
  | '0' :: 'x' :: _ => wholeOf 16 (text.drop 2)
  | '0' :: _ => wholeOf 8 text
  | cs => if cs.contains ':' then sixtiethsOf text else wholeOf 10 text

def withoutLows (text : Points) : Points := text.filter (· != '_'.toNat)

def intOf (text : Points) : Except Fault Atom := do
  let (negative, r) ← takeSign (withoutLows text)
  let n ← unsignedOf r
  .ok (.int (if negative then -n else n))

/-- Decimals in base sixty, the lowest first, added up from the lowest; a power of sixty that is no
decimal is a fault. -/
def addSixtieths (sum : Binary64) (power : Nat) : List Binary64 → Except Fault Binary64
  | [] => .ok sum
  | x :: xs => match Binary64.ofInt? power with
    | none => .error .tooLarge
    | some p => addSixtieths (sum.plus (x.times p)) (60 * power) xs

/-- A decimal without its sign. -/
def unsignedFloatOf (text : Points) : Except Fault Binary64 := do
  if text = .ofString ".inf" then pure (.infinite false)
  else if text = .ofString ".nan" then pure .nan
  else if text.contains ':'.toNat then
    let xs ← (colonParts text).mapM decimalOf
    addSixtieths (.zero false) 1 xs.reverse
  else decimalOf text

def floatOf (node : NodeId) (text : Points) : Except Fault Atom := do
  let (negative, r) ← takeSign (withoutLows text).lower
  match ← unsignedFloatOf r with
  | .nan => .ok (.nan (if r = .ofString ".nan" then none else some node))
  | x => .ok (.float (if negative then x.negate else x))

def stampOf (text : Points) : Except Fault Atom :=
  match stamp? true (dropLastBreak text.chars) with
  | none => .error .noDate
  | some s => match s.value with
    | .ok (.inl d) => .ok (.date d)
    | .ok (.inr t) => .ok (.time t)
    | .error e => .error (.date e)

/-- The atom that a text is by the tag of its node. -/
def Atom.ofText (tag : Tag) (node : NodeId) (text : Points) : Except Fault Atom :=
  match tag with
  | .null => .ok .null
  | .bool => boolOf text
  | .int => intOf text
  | .float => floatOf node text
  | .timestamp => stampOf text
  | .str => .ok (.str text)
  | .binary => match bytesOf? text with
    | some bs => .ok (.bytes bs)
    | none => .error .content
  | _ => .error .content

end CloudScaffold.Yaml
