import CloudScaffold.Number.Shortest
/-!
# Attribute values

A `Value` is what an attribute of a resource may hold: plain data (numbers, texts, lists, mappings),
nested blocks, references to other resources and to variables, and texts put together from parts.
User input and the fields of the catalog are plain values too. Mappings and blocks keep the order of
their entries; `lookup` and `insert` act on them by key.

`Value.refs` lists every reference and variable inside a value, at any depth, in reading order.

References, variables, interpolations and blocks are TerraForge's `Reference`, `VariableRef`,
`Interpolation` and `Block`, a ready expression its `_Raw`, and `Value.refs` its `iter_references`.
-/
namespace CloudScaffold

open Number

/-- A pointer to an attribute of a resource or, in mode `data`, of a data source. -/
structure Reference where
  type : String
  name : String
  attr : String := "id"
  mode : String := "resource"
  deriving DecidableEq, Repr, Inhabited

/-- The address of a resource: data sources are told from resources by their first word. -/
def addressOf (mode type name : String) : String :=
  (if mode = "data" then "data." else "") ++ type ++ "." ++ name

/-- The address that a reference points to. -/
def Reference.target (r : Reference) : String := addressOf r.mode r.type r.name

def Reference.expression (r : Reference) : String := r.target ++ "." ++ r.attr

/-- The value of an attribute. -/
inductive Value where
  | null
  | bool (b : Bool)
  | int (n : Int)
  | float (x : Binary64)
  | str (s : String)
  | list (xs : List Value)
  /-- A fixed group of values; rendered as a list, but never read as a list of blocks. -/
  | tuple (xs : List Value)
  | map (kvs : List (String × Value))
  /-- A nested configuration block. -/
  | block (kvs : List (String × Value))
  | ref (r : Reference)
  /-- A pointer to an input variable. -/
  | var (name : String)
  /-- A quoted text assembled from literal parts and references. -/
  | interp (parts : List Value)
  /-- An expression that is already text. Only the renderer makes one. No value that a user gives and no reply
  is one, and in their place it counts as no text. -/
  | raw (text : String)
  /-- A value of a kind that has no written form. -/
  | other (kind : String)
  deriving Inhabited, Repr

/-- Entries in order; a name occurs once. -/
abbrev Attributes := List (String × Value)

/-- A reference or a variable, as it occurs in an expression. -/
inductive Pointer where
  | ref (r : Reference)
  | var (name : String)
  deriving DecidableEq, Repr

def Pointer.expression : Pointer → String
  | .ref r => r.expression
  | .var n => "var." ++ n

namespace Value

mutual
/-- The references and variables inside a value, in order. -/
def refs : Value → List Pointer
  | .ref r => [.ref r]
  | .var n => [.var n]
  | .interp ps => refsList ps
  | .block kvs => refsEntries kvs
  | .map kvs => refsEntries kvs
  | .list xs => refsList xs
  | .tuple xs => refsList xs
  | _ => []

def refsList : List Value → List Pointer
  | [] => []
  | x :: xs => x.refs ++ refsList xs

def refsEntries : List (String × Value) → List Pointer
  | [] => []
  | (_, v) :: r => v.refs ++ refsEntries r
end

/-- The name of a value's kind in messages. -/
def kindName : Value → String
  | .null => "NoneType"
  | .bool _ => "bool"
  | .int _ => "int"
  | .float _ => "float"
  | .str _ | .raw _ => "str"
  | .list _ => "list"
  | .tuple _ => "tuple"
  | .map _ => "dict"
  | .block _ => "Block"
  | .ref _ => "Reference"
  | .var _ => "VariableRef"
  | .interp _ => "Interpolation"
  | .other k => k

def isNull : Value → Bool
  | .null => true
  | _ => false

def isBlock : Value → Bool
  | .block _ => true
  | _ => false

/-- Whether a value counts as given: nulls, `false`, zeros and empty values do not. -/
def truthy : Value → Bool
  | .null => false
  | .bool b => b
  | .int n => n != 0
  | .float x => !x.isZero
  | .str s | .raw s => s != ""
  | .list xs | .tuple xs => !xs.isEmpty
  | .map kvs => !kvs.isEmpty
  | _ => true

/-- Whether a value is the given text. -/
def isText (t : String) : Value → Bool
  | .str s | .raw s => s == t
  | _ => false

/-- Whether nothing was given: null or the empty text. -/
def isAbsent : Value → Bool
  | .null => true
  | v => v.isText ""

/-- Whether a value can stand as a key of a table. -/
def isKey : Value → Bool
  | .list _ | .map _ | .block _ => false
  | .tuple xs => go xs
  | _ => true
where
  go : List Value → Bool
  | [] => true
  | x :: xs => x.isKey && go xs

end Value

namespace Attributes

/-- The value of a name. -/
def get? (m : Attributes) (k : String) : Option Value := m.lookup k

/-- Sets a name: in place if it is there, else at the end. -/
def insert : Attributes → String → Value → Attributes
  | [], k, v => [(k, v)]
  | (k', v') :: r, k, v => if k' = k then (k, v) :: r else (k', v') :: insert r k v

/-- Entries in order of their first mention, each with its last value. -/
def ofEntries (kvs : List (String × Value)) : Attributes :=
  kvs.foldl (fun m kv => insert m kv.1 kv.2) []

end Attributes

end CloudScaffold
