import CloudScaffold.Graph.Basic
/-!
# Checking references

A graph is sound when no two resources share an address, every reference of a resource points to a
resource listed before it, every reference of an output points to some resource, and every variable
is declared. `Graph.check` reports the first fault in reading order.

`Graph.check` is TerraForge's `check_references` and `checkPointer` its `_check_one`.
-/
namespace CloudScaffold

/-- A fault of a graph; `owner` is the resource or output that holds the pointer. -/
inductive GraphFault where
  | duplicateAddress (address : String)
  | undeclaredVariable (owner name : String)
  | notDeclaredBefore (owner target : String)
  deriving DecidableEq, Repr

/-- The wording of a fault in the graph of a provider's service. -/
def GraphFault.message (label : String) : GraphFault → String
  | duplicateAddress a => s!"Duplicate address '{a}' in {label}"
  | undeclaredVariable o n => s!"{o} references undeclared variable '{n}' in {label}"
  | notDeclaredBefore o t =>
    s!"{o} references '{t}' which is not declared before it in {label}"

/-- Checks one pointer against the addresses before its owner and the declared variables. -/
def checkPointer (declared before : List String) (owner : String) :
    Pointer → Except GraphFault Unit
  | .var n => if declared.contains n then .ok () else .error (.undeclaredVariable owner n)
  | .ref r =>
    if before.contains r.target then .ok () else .error (.notDeclaredBefore owner r.target)

def checkPointers (declared before : List String) (owner : String) :
    List Pointer → Except GraphFault Unit
  | [] => .ok ()
  | p :: ps => do
    checkPointer declared before owner p
    checkPointers declared before owner ps

/-- Checks resources that follow those with the addresses `before`. -/
def checkResources (declared : List String) (before : List String) :
    List Resource → Except GraphFault Unit
  | [] => .ok ()
  | r :: rs => do
    if before.contains r.address then throw (.duplicateAddress r.address)
    checkPointers declared before r.address r.refs
    checkResources declared (before ++ [r.address]) rs

def checkOutputs (declared addresses : List String) : List Output → Except GraphFault Unit
  | [] => .ok ()
  | o :: os => do
    checkPointers declared addresses ("output." ++ o.name) o.value.refs
    checkOutputs declared addresses os

/-- The first fault of a graph, if it has one. -/
def Graph.check (g : Graph) : Except GraphFault Unit := do
  let declared := g.inputs.map (·.name)
  checkResources declared [] g.resources
  checkOutputs declared g.addresses g.outputs

end CloudScaffold
