import CloudScaffold.Graph.Build
/-!
# Sketches

A sketch is a draft without its texts: which resources a service gets, and which resources each of
them refers to. It is computed from a template before any value is given, so it may ask only for what
is known beforehand: the answers to the conditions on the values (`answers`) and, for some fields,
which values can be given at all (`Shape`). Where that does not tell that a step succeeds there is no
sketch.

A resource is known by its `Key`: its class, its type and its role. The base that all local names
start with is the only thing that an address holds besides.
-/
namespace CloudScaffold

open Number Text

/-! ## What is known of values -/

/-- What is known of the value of a field. -/
inductive Shape where
  /-- One of some values. -/
  | oneOf (vs : List Value)
  /-- A text of digits, within the limit. -/
  | numeral
  | text

/-- Whether a text consists of digits that a numeral may have. -/
def isNumeralText (s : String) : Bool :=
  !s.toList.isEmpty && s.toList.all isDigit && s.toList.length ≤ digitLimit

def Value.isStr : Value → Bool
  | .str _ => true
  | _ => false

/-- Whether a value is one that a field can have: null, a truth value or a text. -/
def Value.isPlain : Value → Bool
  | .null | .bool _ | .str _ => true
  | _ => false

namespace Shape

def Holds : Shape → Value → Prop
  | .oneOf vs, v => v ∈ vs
  | .numeral, v => ∃ s, v = .str s ∧ isNumeralText s = true
  | .text, v => ∃ s, v = .str s

/-- Every value of the shape is absent or a whole number. -/
def isNumber : Shape → Bool
  | .oneOf vs => vs.all fun v => v.isAbsent || (numberOf v).isOk
  | .numeral => true
  | .text => false

/-- Every value of the shape is a decimal number. -/
def isDecimal : Shape → Bool
  | .oneOf vs => vs.all fun v => (decimalOf v).isOk
  | _ => false

/-- Every value of the shape is a text. -/
def isText : Shape → Bool
  | .oneOf vs => vs.all (·.isStr)
  | _ => true

/-- Every value of the shape is one of some texts. -/
def isAmong (keys : List String) : Shape → Bool
  | .oneOf vs => vs.all fun v => match v with
    | .str s => keys.contains s
    | _ => false
  | _ => false

end Shape

/-! ## Keys and nodes -/

/-- Whether a text has a point. Its bytes are asked, which a run in the kernel has faster than its
characters. -/
def hasPoint (s : String) : Bool := s.toByteArray.data.toList.contains 46

/-- What tells a resource of a draft from the others. -/
structure Key where
  data : Bool
  type : String
  role : String
  deriving DecidableEq, Repr

/-- A local name under a base. -/
def nameUnder (base role : String) : String := if base = "" then role else base ++ "_" ++ role

namespace Key

def mode (k : Key) : String := if k.data then "data" else "resource"

/-- The address of a resource under the base of its draft. -/
def address (base : String) (k : Key) : String := addressOf k.mode k.type (nameUnder base k.role)

/-- A type that no address can hide: without a point, and not the word that data sources start with. -/
def isProper (k : Key) : Bool := !hasPoint k.type && k.type != "data"

end Key

/-- A resource of a sketch, and the resources that it may refer to. -/
structure Node where
  key : Key
  primary : Bool
  points : List Key

structure Sketch where
  /-- The answers to conditions on the values. -/
  answers : List (Cond × Bool)
  /-- What is known of the fields. -/
  shapes : String → Option Shape
  /-- The variables that are declared in any case. -/
  globals : List String
  primary : Bool := false
  nodes : List Node := []
  outputs : List (List Key) := []
  kinds : List (String × Key) := []
  handles : List (String × Key) := []

/-! ## Sketching templates -/

namespace Sketch

/-- The answer to a condition, if it is known. -/
def answer (k : Sketch) : Cond → Option Bool
  | .always => some true
  | .never => some false
  | .made h => some (k.handles.lookup h).isSome
  | .kind d => some (k.kinds.lookup d).isSome
  | .not c => (k.answer c).map (!·)
  | c => k.answers.lookup c

/-- Whether something is known of a field, and has a property. -/
def knows (k : Sketch) (field : String) (p : Shape → Bool) : Bool := (k.shapes field).any p

/-- Whether a value refers to nothing but variables that are declared in any case. -/
def isFree (k : Sketch) (v : Value) : Bool := v.refs.all fun
  | .var n => k.globals.contains n
  | .ref _ => false

mutual
/-- Whether a term surely has a JSON text. -/
def isData (k : Sketch) : Term → Bool
  | .lit v => v.isStr
  | .field f => k.knows f (·.isText)
  | .list ts => k.isDataAll ts
  | .map kvs => k.isDataEntries kvs
  | _ => false

def isDataAll (k : Sketch) : List Term → Bool
  | [] => true
  | t :: ts => k.isData t && k.isDataAll ts

def isDataEntries (k : Sketch) : List (String × Term) → Bool
  | [] => true
  | (_, t) :: r => k.isData t && k.isDataEntries r
end

mutual
/-- The resources that the value of a term may refer to; none if the term may have no value. -/
def points (k : Sketch) : Term → Option (List Key)
  | .lit v => if k.isFree v then some [] else none
  | .number f _ => if k.knows f (·.isNumber) then some [] else none
  | .decimal f => if k.knows f (·.isDecimal) then some [] else none
  | .ending f _ _ => if k.knows f (·.isText) then some [] else none
  | .kind d _ => (k.kinds.lookup d).map ([·])
  | .made h _ => (k.handles.lookup h).map ([·])
  | .lookup f table dflt => do
    if !k.knows f (·.isText) then none
    if dflt.isEmpty && !k.knows f (·.isAmong (table.map (·.1))) then none
    some ((← k.pointsEntries table) ++ (← k.pointsAll dflt))
  | .ite c t e => do if ← k.answer c then k.points t else k.points e
  | .list ts | .interp ts => k.pointsAll ts
  | .map kvs | .block kvs => k.pointsEntries kvs
  | .json t => if k.isData t then some [] else none
  | _ => some []

def pointsAll (k : Sketch) : List Term → Option (List Key)
  | [] => some []
  | t :: ts => do some ((← k.points t) ++ (← k.pointsAll ts))

def pointsEntries (k : Sketch) : List (String × Term) → Option (List Key)
  | [] => some []
  | (_, t) :: r => do some ((← k.points t) ++ (← k.pointsEntries r))
end

/-- An entry under a name, unless the name is empty. -/
def register (name : String) (key : Key) (m : List (String × Key)) : List (String × Key) :=
  if name = "" then m else (name, key) :: m

def add (k : Sketch) (a : Addition) (ps : List Key) : Sketch :=
  let key : Key := ⟨a.data, a.type, a.role⟩
  { k with
    nodes := k.nodes ++ [⟨key, k.primary && !a.dependency, ps⟩]
    kinds := register a.kind key k.kinds
    handles := register a.handle key k.handles }

def step (k : Sketch) : Step → Option Sketch
  | .touch t => (k.points t).map fun _ => k
  | .add a => do
    if ← k.answer a.onlyIf then (k.pointsEntries a.attrs).map (k.add a) else some k
  | .output o => do
    if ← k.answer o.onlyIf then
      (k.points o.value).map fun ps => { k with outputs := k.outputs ++ [ps] }
    else some k

def steps (k : Sketch) : List Step → Option Sketch
  | [] => some k
  | s :: ss => do (← k.step s).steps ss

/-- A template starts without handles. -/
def run (k : Sketch) (t : Template) : Option Sketch := { k with handles := [] }.steps t

/-! ## Sound sketches -/

/-- The nodes as the resources are listed. -/
def listed (k : Sketch) : List Node :=
  k.nodes.filter (·.key.data) ++ k.nodes.filter (fun n => !n.key.data && !n.primary)
    ++ k.nodes.filter (fun n => !n.key.data && n.primary)

/-- Whether nodes that follow those with the keys `before` point backwards only. -/
def pointsBack (before : List Key) : List Node → Bool
  | [] => true
  | n :: ns => n.points.all before.contains && pointsBack (before ++ [n.key]) ns

/-- Whether the graph of any draft with this sketch is sound, and has a primary resource. -/
def isSound (k : Sketch) : Bool :=
  let keys := k.listed.map (·.key)
  keys.all (·.isProper) && decide keys.Nodup && pointsBack [] k.listed
    && k.outputs.all (·.all keys.contains) && k.nodes.any (fun n => !n.key.data && n.primary)

end Sketch

/-! ## Sketches of services -/

namespace Registry

def sketchKinds (r : Registry) (provider : String) (k : Sketch) : List String → Option Sketch
  | [] => some k
  | d :: ds => do r.sketchKinds provider (← k.run (← r.dependency? provider d)) ds

/-- The sketch of what `build` builds. -/
def sketch (r : Registry) (provider : String) (s : Service) (k : Sketch) : Option Sketch := do
  let k ← r.sketchKinds provider k s.dependencies
  { k with primary := true }.run (← r.primary? provider s.id)

end Registry

end CloudScaffold
