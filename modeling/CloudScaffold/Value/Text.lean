import CloudScaffold.Value.Basic
/-!
# Values as text

The plain text of a value, as names, labels and messages show it (`Value.text`), and its literal
form, in which texts stand in quotes (`Value.literal`). Inside lists and mappings every value
stands in its literal form.
-/
namespace CloudScaffold.Value

open Text Number

/-- An entry of a record shown by name. -/
def namedText (k v : String) : String := k ++ "=" ++ v

mutual
/-- A value as a message shows it. -/
def literal : Value → String
  | .null => "None"
  | .bool b => if b then "True" else "False"
  | .int n => showInt n
  | .float x => x.text
  | .str s | .raw s => Text.literal s
  | .list xs => "[" ++ ", ".intercalate (literals xs) ++ "]"
  | .tuple [x] => "(" ++ x.literal ++ ",)"
  | .tuple xs => "(" ++ ", ".intercalate (literals xs) ++ ")"
  | .map kvs => "\x7b" ++ ", ".intercalate (entryLiterals kvs) ++ "\x7d"
  | .block kvs =>
    "Block(" ++ namedText "attributes" ("\x7b" ++ ", ".intercalate (entryLiterals kvs) ++ "\x7d")
      ++ ")"
  | .ref r =>
    "Reference(" ++ ", ".intercalate
      [namedText "resource_type" (Text.literal r.type),
       namedText "local_name" (Text.literal r.name), namedText "attribute" (Text.literal r.attr),
       namedText "mode" (Text.literal r.mode)] ++ ")"
  | .var n => "VariableRef(" ++ namedText "name" (Text.literal n) ++ ")"
  | .interp ps =>
    "Interpolation(" ++ namedText "parts" ("(" ++ ", ".intercalate (literals ps)
      ++ (if ps.length = 1 then ",)" else ")")) ++ ")"
  | .other k => "<" ++ k ++ ">"

def literals : List Value → List String
  | [] => []
  | x :: xs => x.literal :: literals xs

def entryLiterals : List (String × Value) → List String
  | [] => []
  | (k, v) :: r => (Text.literal k ++ ": " ++ v.literal) :: entryLiterals r
end

/-- The plain text of a value. -/
def text : Value → String
  | .str s | .raw s => s
  | v => v.literal

end CloudScaffold.Value
