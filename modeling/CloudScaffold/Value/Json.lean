import CloudScaffold.Text.Points
import CloudScaffold.Value.Text
/-!
# JSON

`Json.Data` are data as JSON has them, with texts of code points. `Data.write` writes them as JSON text: in
one line, or with two spaces of indent a level (`Layout`). A text is written by its 16-bit units, those
beyond ASCII as escapes, so a character and the two halves of its pair are written alike. `Value.data?` are
the data of a value; a value that holds anything else has no JSON text.

`Json.readData` reads a JSON text, in which groups may be nested up to a depth; two escapes that make a pair
are one character. `Json.read` reads it as a value: of a name that occurs twice in an object the first place
and the last value count. A value holds texts of characters alone. So a text in which a half is left, and an
object with such a name, are read as a value of a kind that has no written form.
-/
namespace CloudScaffold

open Text Number

namespace Json

/-- Data as JSON has them. -/
inductive Data where
  | null
  | bool (b : Bool)
  | int (n : Int)
  | float (x : Binary64)
  | text (ps : Points)
  | list (xs : List Data)
  | object (entries : List (Points × Data))
  deriving Inhabited

/-! ## Writing -/

/-- The escape of a 16-bit unit. -/
def unitEscape (n : Nat) : List Char := '\\' :: 'u' :: hexDigits 4 n

/-- One unit inside a JSON string. -/
def escapeUnit (n : Nat) : List Char :=
  if n = '"'.toNat then ['\\', '"']
  else if n = '\\'.toNat then ['\\', '\\']
  else if n = '\n'.toNat then ['\\', 'n']
  else if n = '\r'.toNat then ['\\', 'r']
  else if n = '\t'.toNat then ['\\', 't']
  else if n = 8 then ['\\', 'b']
  else if n = 12 then ['\\', 'f']
  else if 32 ≤ n && n < 127 then [.ofNat n]
  else unitEscape n

def quote (ps : Points) : String := .ofList ('"' :: ps.units.flatMap escapeUnit ++ ['"'])

/-- Where items go: all in one line, or each on a line of its own. -/
inductive Layout where
  | line
  | indented
  deriving DecidableEq

/-- What stands before the first item of a group at a depth. -/
def Layout.opening : Layout → Nat → String
  | .line, _ => ""
  | .indented, depth => "\n" ++ .ofList (List.replicate (2 * (depth + 1)) ' ')

/-- What stands between two items. -/
def Layout.separator : Layout → Nat → String
  | .line, _ => ", "
  | .indented, depth => "," ++ Layout.indented.opening depth

/-- What stands after the last item. -/
def Layout.closing : Layout → Nat → String
  | .line, _ => ""
  | .indented, depth => "\n" ++ .ofList (List.replicate (2 * depth) ' ')

/-- A group of written items between brackets; an empty one has nothing inside. -/
def group (l : Layout) (depth : Nat) (left right : String) (items : List String) : String :=
  if items.isEmpty then left ++ right
  else left ++ l.opening depth ++ (l.separator depth).intercalate items ++ l.closing depth ++ right

def floatText : Binary64 → String
  | .nan => "NaN"
  | .infinite false => "Infinity"
  | .infinite true => "-Infinity"
  | x => x.text

namespace Data

mutual
/-- The JSON text of data. -/
def write (l : Layout) (depth : Nat) : Data → String
  | .null => "null"
  | .bool b => if b then "true" else "false"
  | .int n => showInt n
  | .float x => floatText x
  | .text ps => quote ps
  | .list xs => group l depth "[" "]" (writeAll l (depth + 1) xs)
  | .object es => group l depth "\x7b" "\x7d" (writeEntries l (depth + 1) es)

def writeAll (l : Layout) (depth : Nat) : List Data → List String
  | [] => []
  | x :: xs => x.write l depth :: writeAll l depth xs

def writeEntries (l : Layout) (depth : Nat) : List (Points × Data) → List String
  | [] => []
  | (k, x) :: r => (quote k ++ ": " ++ x.write l depth) :: writeEntries l depth r
end

end Data

end Json

namespace Value

open Json

mutual
/-- The data of a value, if it holds nothing but data. -/
def data? : Value → Option Data
  | .null => some .null
  | .bool b => some (.bool b)
  | .int n => some (.int n)
  | .float x => some (.float x)
  | .str s | .raw s => some (.text (Points.ofString s))
  | .list xs | .tuple xs => (dataAll? xs).map .list
  | .map kvs => (dataEntries? kvs).map .object
  | _ => none

def dataAll? : List Value → Option (List Data)
  | [] => some []
  | x :: xs => do
    let d ← x.data?
    let ds ← dataAll? xs
    some (d :: ds)

def dataEntries? : List (String × Value) → Option (List (Points × Data))
  | [] => some []
  | (k, v) :: r => do
    let d ← v.data?
    let ds ← dataEntries? r
    some ((Points.ofString k, d) :: ds)
end

/-- The JSON text of a value. -/
def toJson? (l : Layout) (depth : Nat) (v : Value) : Option String := v.data?.map (·.write l depth)

end Value

namespace Json

/-! ## Reading -/

/-- Why a text is no JSON. -/
inductive ReadError where
  | malformed
  /-- A whole number with more digits than a numeral may have. -/
  | numeralTooLong
  /-- More groups inside each other than are allowed. -/
  | tooDeep
  deriving DecidableEq, Repr

abbrev Reader (α : Type) := List Char → Except ReadError (α × List Char)

def isSpace (c : Char) : Bool := c == ' ' || c == '\t' || c == '\n' || c == '\r'

def skipSpace (cs : List Char) : List Char := cs.dropWhile isSpace

/-- Four hexadecimal digits. -/
def hexUnit? : List Char → Option (Nat × List Char)
  | a :: b :: c :: d :: r => (numberIn? 16 [a, b, c, d]).map (·, r)
  | _ => none

/-- The character of an escape of one letter. -/
def shortEscape? : Char → Option Char
  | '"' => some '"'
  | '\\' => some '\\'
  | '/' => some '/'
  | 'b' => some (.ofNat 8)
  | 'f' => some (.ofNat 12)
  | 'n' => some '\n'
  | 'r' => some '\r'
  | 't' => some '\t'
  | _ => none

/-- The code points up to the closing quote, escapes by number as they stand, and what follows it. `fuel`
bounds their number. -/
def stringPoints : Nat → List Char → Option (Points × List Char)
  | 0, _ => none
  | _, [] => none
  | fuel + 1, c :: r =>
    if c = '"' then some ([], r)
    else if c.toNat < 32 then none
    else if c = '\\' then
      match r with
      | 'u' :: r' => do
        let (unit, rest) ← hexUnit? r'
        let (ps, rest) ← stringPoints fuel rest
        some (unit :: ps, rest)
      | e :: r' => do
        let d ← shortEscape? e
        let (ps, rest) ← stringPoints fuel r'
        some (d.toNat :: ps, rest)
      | [] => none
    else (stringPoints fuel r).map fun p => (c.toNat :: p.1, p.2)

/-- A string after its opening quote. -/
def readString (cs : List Char) : Except ReadError (Points × List Char) :=
  match stringPoints (cs.length + 1) cs with
  | some (ps, rest) => .ok (ps.merged, rest)
  | none => .error .malformed

/-- A whole number, or a decimal if a fraction or an exponent follows. -/
def readNumber (negative : Bool) (cs : List Char) : Except ReadError (Data × List Char) :=
  let (whole, r) := match cs with
    | '0' :: r => ([0], r)
    | _ => takeDigits cs
  if whole.isEmpty then .error .malformed
  else
    let (fraction, r') := match r with
      | '.' :: t => match takeDigits t with
        | ([], _) => ([], r)
        | p => p
      | _ => ([], r)
    let (exp, rest) := takeExponent r'
    if rest.length = r.length then
      if digitLimit < whole.length then .error .numeralTooLong
      else .ok (.int (if negative then -(ofDigits 10 whole : Int) else ofDigits 10 whole), r)
    else
      let digits := ofDigits 10 (whole ++ fraction)
      .ok (.float (.ofDecimal negative digits (exp - fraction.length)), rest)

/-- A word at the start, and what follows. -/
def dropWord? (w : String) (cs : List Char) : Option (List Char) :=
  if w.toList.isPrefixOf cs then some (cs.drop w.length) else none

/-- The words that are data. -/
def words : List (String × Data) :=
  [("null", .null), ("true", .bool true), ("false", .bool false), ("NaN", .float .nan),
   ("Infinity", .float (.infinite false)), ("-Infinity", .float (.infinite true))]

/-- A datum other than a list or an object. -/
def readScalar (cs : List Char) : Except ReadError (Data × List Char) :=
  match words.findSome? fun w => (dropWord? w.1 cs).map fun r => (w.2, r) with
  | some p => .ok p
  | none => match cs with
    | '-' :: r => readNumber true r
    | _ => readNumber false cs

mutual
/-- A datum at the start of a text without leading space, with groups nested up to a depth. -/
def readDatum : Nat → Nat → List Char → Except ReadError (Data × List Char)
  | 0, _, _ => .error .malformed
  | fuel + 1, depth, cs =>
    match cs, depth with
    | '"' :: r, _ => do
      let (ps, rest) ← readString r
      .ok (.text ps, rest)
    | '[' :: _, 0 | '{' :: _, 0 => .error .tooDeep
    | '[' :: r, depth + 1 =>
      match skipSpace r with
      | ']' :: rest => .ok (.list [], rest)
      | r' => do
        let (xs, rest) ← readItems fuel depth r'
        .ok (.list xs, rest)
    | '{' :: r, depth + 1 =>
      match skipSpace r with
      | '}' :: rest => .ok (.object [], rest)
      | r' => do
        let (entries, rest) ← readEntries fuel depth r'
        .ok (.object entries, rest)
    | _, _ => readScalar cs

/-- The items up to the closing bracket. -/
def readItems : Nat → Nat → List Char → Except ReadError (List Data × List Char)
  | 0, _, _ => .error .malformed
  | fuel + 1, depth, cs => do
    let (x, r) ← readDatum fuel depth cs
    match skipSpace r with
    | ']' :: rest => .ok ([x], rest)
    | ',' :: r' =>
      let (xs, rest) ← readItems fuel depth (skipSpace r')
      .ok (x :: xs, rest)
    | _ => .error .malformed

/-- The entries up to the closing brace. -/
def readEntries : Nat → Nat → List Char → Except ReadError (List (Points × Data) × List Char)
  | 0, _, _ => .error .malformed
  | fuel + 1, depth, cs =>
    match cs with
    | '"' :: r => do
      let (k, r) ← readString r
      match skipSpace r with
      | ':' :: r =>
        let (v, r) ← readDatum fuel depth (skipSpace r)
        match skipSpace r with
        | '}' :: rest => .ok ([(k, v)], rest)
        | ',' :: r' =>
          let (entries, rest) ← readEntries fuel depth (skipSpace r')
          .ok ((k, v) :: entries, rest)
        | _ => .error .malformed
      | _ => .error .malformed
    | _ => .error .malformed
end

/-- The data that a text writes, with groups nested up to a depth. -/
def readData (depth : Nat) (s : String) : Except ReadError Data :=
  let cs := skipSpace s.toList
  match readDatum (2 * cs.length + 1) depth cs with
  | .ok (x, r) => if (skipSpace r).isEmpty then .ok x else .error .malformed
  | .error e => .error e

/-! ## Values -/

namespace Data

mutual
/-- Data as a value. -/
def value : Data → Value
  | .null => .null
  | .bool b => .bool b
  | .int n => .int n
  | .float x => .float x
  | .text ps => match ps.chars? with
    | some cs => .str (.ofList cs)
    | none => .other "str"
  | .list xs => .list (values xs)
  | .object es => match entries? es with
    | some kvs => .map (Attributes.ofEntries kvs)
    | none => .other "dict"

def values : List Data → List Value
  | [] => []
  | x :: xs => x.value :: values xs

def entries? : List (Points × Data) → Option Attributes
  | [] => some []
  | (k, x) :: r => do
    let cs ← k.chars?
    let kvs ← entries? r
    some ((.ofList cs, x.value) :: kvs)
end

end Data

/-- The value that a text writes, with groups nested up to a depth. -/
def read (depth : Nat) (s : String) : Except ReadError Value := (readData depth s).map (·.value)

end Json

end CloudScaffold
