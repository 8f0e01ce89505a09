import CloudScaffold.Hcl.Quoted
import CloudScaffold.Hcl.Layout
import CloudScaffold.Value.Basic
/-!
# Rendering

`renderValue` writes a value as an expression, `renderBody` the contents of a block and
`renderBlock` a block with its header. Nulls among the attributes of a body are left out. A block,
or a list of blocks, stands for blocks of its own; anywhere else a block has no expression, nor has
null.

`renderValue`, `renderBody` and `renderBlock` are TerraForge's `render_value`, `render_body` and
`render_block`, and `isBlockList` is what its `_is_block_list` asks of a list.
-/
namespace CloudScaffold.Hcl

open Number

/-- Why a value has no written form. -/
inductive RenderError where
  | unrenderable (kind : String)
  /-- A part of an interpolation that is neither text nor a pointer. -/
  | noExpression
  | number (cause : NumberError)
  deriving DecidableEq, Repr

def RenderError.message : RenderError → String
  | unrenderable k => "Cannot render value of type " ++ k
  | noExpression => "An interpolation holds a part without an expression"
  | number e => e.message

/-- The header of a block: its keyword and its quoted labels. -/
def blockHeader (keyword : String) (labels : List String) : String :=
  " ".intercalate (keyword :: labels.map quote)

/-- A block around its body. -/
def blockLines (depth : Nat) (header : String) (body : List String) : List String :=
  [indent depth ++ header ++ " \x7b"] ++ body ++ [indent depth ++ "\x7d"]

/-- A list that stands for repeated blocks. -/
def isBlockList (xs : List Value) : Bool := !xs.isEmpty && xs.all (·.isBlock)

/-- A part of an interpolation between its quotes. -/
def renderPart : Value → Except RenderError String
  | .str s | .raw s => .ok (escape s)
  | .ref r => .ok ("$\x7b" ++ r.expression ++ "\x7d")
  | .var n => .ok ("$\x7bvar." ++ n ++ "\x7d")
  | _ => .error .noExpression

/-- The lines of an object between its braces. -/
def objectText (depth : Nat) (body : List String) : String :=
  "\x7b\n" ++ unlines body ++ "\n" ++ indent depth ++ "\x7d"

mutual
/-- A value as an expression. -/
def renderValue (depth : Nat) : Value → Except RenderError String
  | .raw s => .ok s
  | .bool b => .ok (if b then "true" else "false")
  | .int n => (writeInt n).mapError .number
  | .float x => .ok x.text
  | .str s => .ok (quote s)
  | .ref r => .ok r.expression
  | .var n => .ok ("var." ++ n)
  | .interp ps => do .ok ("\"" ++ "".intercalate (← ps.mapM renderPart) ++ "\"")
  | .list xs | .tuple xs => do .ok ("[" ++ ", ".intercalate (← renderItems depth xs) ++ "]")
  | .map [] => .ok "\x7b\x7d"
  | .map kvs => do .ok (objectText depth (layout (depth + 1) (← renderPieces (depth + 1) kvs)))
  | v => .error (.unrenderable v.kindName)

def renderItems (depth : Nat) : List Value → Except RenderError (List String)
  | [] => .ok []
  | x :: xs => do
    let t ← renderValue depth x
    let ts ← renderItems depth xs
    .ok (t :: ts)

/-- The attributes and blocks of a body, in order. -/
def renderPieces (depth : Nat) : List (String × Value) → Except RenderError (List Piece)
  | [] => .ok []
  | (k, v) :: r => do
    let here ← match v with
      | .null => .ok []
      | .block kvs => do
        .ok [.block (blockLines depth k (layout (depth + 1) (← renderPieces (depth + 1) kvs)))]
      | .list xs =>
        if isBlockList xs then renderBlocks depth k xs
        else do .ok [.attr (objectKey k) ("[" ++ ", ".intercalate (← renderItems depth xs) ++ "]")]
      | v => do .ok [.attr (objectKey k) (← renderValue depth v)]
    .ok (here ++ (← renderPieces depth r))

/-- The blocks of a list, all under one name. -/
def renderBlocks (depth : Nat) (k : String) : List Value → Except RenderError (List Piece)
  | [] => .ok []
  | .block kvs :: r => do
    let body ← renderPieces (depth + 1) kvs
    let rest ← renderBlocks depth k r
    .ok (.block (blockLines depth k (layout (depth + 1) body)) :: rest)
  | _ :: r => renderBlocks depth k r
end

/-- The pieces of one entry of a body. -/
def renderEntry (depth : Nat) (k : String) : Value → Except RenderError (List Piece)
  | .null => .ok []
  | .block kvs => do
    .ok [.block (blockLines depth k (layout (depth + 1) (← renderPieces (depth + 1) kvs)))]
  | .list xs =>
    if isBlockList xs then renderBlocks depth k xs
    else do .ok [.attr (objectKey k) (← renderValue depth (.list xs))]
  | v => do .ok [.attr (objectKey k) (← renderValue depth v)]

theorem renderPieces_cons (depth : Nat) (k : String) (v : Value) (r : List (String × Value)) :
    renderPieces depth ((k, v) :: r) =
      renderEntry depth k v >>= fun here => renderPieces depth r >>= fun rest => .ok (here ++ rest) := by
  cases v with
  | list xs =>
    by_cases hb : isBlockList xs = true
    · simp only [renderPieces, renderEntry, hb, if_true]
    · simp only [renderPieces, renderEntry, renderValue, hb, Bool.false_eq_true, if_false, bind_assoc]
      rfl
  | _ => simp only [renderPieces, renderEntry, bind_assoc]

/-- The lines of a block's contents. -/
def renderBody (depth : Nat) (attrs : Attributes) : Except RenderError (List String) := do
  .ok (layout depth (← renderPieces depth attrs))

/-- The lines of a block. -/
def renderBlock (depth : Nat) (keyword : String) (labels : List String) (attrs : Attributes) :
    Except RenderError (List String) := do
  .ok (blockLines depth (blockHeader keyword labels) (← renderBody (depth + 1) attrs))

end CloudScaffold.Hcl
