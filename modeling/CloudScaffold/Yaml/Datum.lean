import CloudScaffold.Yaml.Atom
import CloudScaffold.Yaml.Document
import CloudScaffold.Yaml.Members
import CloudScaffold.Yaml.Merge
/-!
# Data

What a document says. A datum is an atom, or a collection that it names by the number of its node,
since a collection may be part of itself. Collections are read one after the other in the order in
which they are met, each after all that were met before it; so of two faults the one nearer to the
top counts.

Keys that are the same are one key, which keeps its first place and its last value
(`setKey_keys`).

`Data.write` is how a datum reads as a text. A collection inside itself reads as dots.
-/
namespace CloudScaffold.Yaml

open Number Text

inductive Datum where
  | atom (a : Atom)
  /-- The collection of a node. -/
  | shared (n : NodeId)
  deriving Inhabited, Repr

inductive Collection where
  | list (items : List Datum)
  | map (entries : List (Atom × Datum))
  /-- Members, in the order in which they show. -/
  | set (members : List Atom)
  /-- A list of pairs. -/
  | pairs (entries : List (Datum × Datum))
  deriving Inhabited, Repr

/-- The data of a document: the datum at the top, and the collections by the numbers of their
nodes. -/
structure Data where
  root : Datum
  collections : Array Collection := #[]

/-! ## From nodes to data -/

/-- Sets a key: in place if it is there, else at the end. -/
def setKey (k : Atom) (v : Datum) : List (Atom × Datum) → List (Atom × Datum)
  | [] => [(k, v)]
  | (k', v') :: r => if k'.sameKey k then (k', v) :: r else (k', v') :: setKey k v r

theorem setKey_keys (k : Atom) (v : Datum) (es : List (Atom × Datum)) :
    (setKey k v es).map (·.1)
      = if es.any (fun e => e.1.sameKey k) then es.map (·.1) else es.map (·.1) ++ [k] := by
  induction es with
  | nil => rfl
  | cons e r ih =>
    by_cases h : e.1.sameKey k
    · simp [setKey, h]
    · simp only [setKey, h, Bool.false_eq_true, if_false, List.map_cons, ih, List.any_cons,
        Bool.false_or]
      split <;> simp

/-- Data that are being read. -/
structure Building where
  nodes : Nodes
  /-- The nodes whose datum is known. -/
  known : Array (Option Datum)
  /-- Collections that are met and not yet read, the last one first. -/
  waiting : List NodeId := []
  collections : Array Collection

abbrev Build (α : Type) := StateT Building (Except Fault) α

/-- The text of a node that should be an atom: its own, or that of the default value among its
entries. `fuel` bounds the depth. -/
def textOf (ns : Nodes) : Nat → NodeId → Except Fault Points
  | 0, _ => .error .tooDeep
  | fuel + 1, n =>
    match (ns.node n).content with
    | .scalar text => .ok text
    | .sequence _ => .error .content
    | .mapping es => match es.find? fun e => (ns.node e.1).tag = .value with
      | some e => textOf ns fuel e.2
      | none => .error .content

/-- The atom of a node. -/
def atomOf (ns : Nodes) (n : NodeId) : Except Fault Atom := do
  let node := ns.node n
  if !node.tag.isAtomic then throw .content
  let text ← textOf ns (ns.size + 1) n
  if node.tag = .timestamp && !node.content.isScalar then throw .noText
  Atom.ofText node.tag n text

/-- The datum of a node; a collection is to be read later. -/
def datumOf (n : NodeId) : Build Datum := do
  let b ← get
  match (b.known[n]?).join with
  | some d => pure d
  | none => do
    if (b.nodes.node n).tag.isCollective then
      let d := Datum.shared n
      set { b with known := b.known.setIfInBounds n (some d), waiting := n :: b.waiting }
      pure d
    else
      let d := Datum.atom (← liftM (atomOf b.nodes n))
      set { b with known := b.known.setIfInBounds n (some d) }
      pure d

/-- Adds an entry of a node to those of a mapping. -/
def addEntry (acc : List (Atom × Datum)) (e : Entry) : Build (List (Atom × Datum)) := do
  match ← datumOf e.1 with
  | .shared _ => throw .content
  | .atom k => do
    let v ← datumOf e.2
    pure (setKey k v acc)

/-- The entries of a mapping, those that it merges in front. -/
def entriesOf (n : NodeId) : Build (List (Atom × Datum)) := do
  let ns ← liftM (resolveMerges (← get).nodes n)
  modify fun b => { b with nodes := ns }
  (ns.entries n).foldlM addEntry []

/-- The pair that a mapping of one entry is. -/
def pairOf (n : NodeId) : Build (Datum × Datum) := do
  match ((← get).nodes.node n).content with
  | .mapping [e] => do
    let k ← datumOf e.1
    let v ← datumOf e.2
    pure (k, v)
  | _ => throw .content

/-- The collection of a node. -/
def collectionOf (n : NodeId) : Build Collection := do
  let node := (← get).nodes.node n
  match node.tag, node.content with
  | .seq, .sequence items => do pure (.list (← items.mapM datumOf))
  | .map, .mapping _ => do pure (.map (← entriesOf n))
  | .set, .mapping _ => do pure (.set (shown ((← entriesOf n).map (·.1))))
  | .pairs, .sequence items => do pure (.pairs (← items.mapM pairOf))
  | _, _ => throw .content

/-- Reads the collections that wait, and those that they meet. Every node waits once at most, so
`fuel` needs to be no more than their number. -/
def buildAll : Nat → List NodeId → Build Unit
  | 0, _ => pure ()
  | _, [] => pure ()
  | fuel + 1, n :: rest => do
    let c ← collectionOf n
    let met := (← get).waiting.reverse
    modify fun b => { b with waiting := [], collections := b.collections.setIfInBounds n c }
    buildAll fuel (rest ++ met)

/-- What a document says. -/
def Data.ofDocument (d : Document) : Except Fault Data := do
  let size := d.nodes.size
  let read : Build Datum := do
    let root ← datumOf d.root
    let met := (← get).waiting
    modify fun b => { b with waiting := [] }
    buildAll size met
    pure root
  let (root, b) ← read.run
    { nodes := d.nodes, known := Array.replicate size none
      collections := Array.replicate size (.list []) }
  .ok { root := root, collections := b.collections }

/-- What a text says; a text without a document says null. -/
def Data.ofText (text : String) : Except Fault Data := do
  match ← Document.ofText text with
  | none => .ok { root := .atom .null }
  | some d => Data.ofDocument d

/-! ## From data to texts -/

/-- How many parts a collection has. -/
def Collection.size : Collection → Nat
  | .list items => items.length
  | .map es => es.length
  | .set members => members.length
  | .pairs es => es.length

/-- What stands for a collection inside itself. -/
def Collection.dots : Collection → String
  | .list _ | .pairs _ => "[...]"
  | .map _ => "\x7b...\x7d"
  | .set _ => "set(...)"

namespace Data

/-- The collection of a node. -/
def collection (d : Data) (n : NodeId) : Collection := d.collections.getD n (.list [])

def inBrackets (parts : List String) : String := "[" ++ ", ".intercalate parts ++ "]"

def inBraces (parts : List String) : String := "\x7b" ++ ", ".intercalate parts ++ "\x7d"

/-- An entry of a mapping, given how its value reads. -/
def entryLiteral (part : Datum → Except NumberError String) (e : Atom × Datum) :
    Except NumberError String := do
  .ok ((← e.1.literal) ++ ": " ++ (← part e.2))

/-- A pair, given how its members read. -/
def pairLiteral (part : Datum → Except NumberError String) (e : Datum × Datum) :
    Except NumberError String := do
  .ok ("(" ++ (← part e.1) ++ ", " ++ (← part e.2) ++ ")")

/-- How a datum reads inside a collection. `path` holds the collections around it; it names none
twice, so `fuel` needs to be no more than their number and one. -/
def literal (d : Data) : Nat → List NodeId → Datum → Except NumberError String
  | _, _, .atom a => a.literal
  | 0, _, .shared n => .ok (d.collection n).dots
  | fuel + 1, path, .shared n =>
    if path.contains n then .ok (d.collection n).dots
    else
      let part := d.literal fuel (n :: path)
      match d.collection n with
      | .list items => (items.mapM part).map inBrackets
      | .map es => (es.mapM (entryLiteral part)).map inBraces
      | .set [] => .ok "set()"
      | .set members => (members.mapM Atom.literal).map inBraces
      | .pairs es => (es.mapM (pairLiteral part)).map inBrackets

/-- The text of a datum. -/
def write (d : Data) : Datum → Except NumberError String
  | .atom a => a.write
  | x => d.literal (d.collections.size + 1) [] x

/-- Whether a datum counts as given: an atom that does, or a collection that is not empty. -/
def truthy (d : Data) : Datum → Bool
  | .atom a => a.truthy
  | .shared n => (d.collection n).size != 0

end Data

end CloudScaffold.Yaml
