import CloudScaffold.Value.Basic
/-!
# Resource graphs

A graph lists the resources, input variables and outputs of one generated project, in the order in
which they are written. A resource has a mode (`data` for a lookup, `resource` for anything else)
and a role (`dependency` or `primary`).

`ordered` sorts resources by class: data lookups, dependencies, primary resources; within a class
they keep their order.

`Resource`, `Variable`, `Output` and `Graph` are TerraForge's `ResourceSpec`, `VariableSpec`,
`OutputSpec` and `ResourceGraph`; `ordered` is its `_order_resources`.
-/
namespace CloudScaffold

/-- A declared resource or data source. -/
structure Resource where
  type : String
  name : String
  attributes : Attributes := []
  mode : String := "resource"
  role : String := "dependency"
  deriving Inhabited, Repr

namespace Resource

def address (r : Resource) : String := addressOf r.mode r.type r.name

/-- A reference to an attribute of a resource. -/
def reference (r : Resource) (attr : String) : Reference := ⟨r.type, r.name, attr, r.mode⟩

/-- The references and variables in the attributes of a resource. -/
def refs (r : Resource) : List Pointer := Value.refsEntries r.attributes

def isData (r : Resource) : Bool := r.mode == "data"

def isDependency (r : Resource) : Bool := r.role == "dependency"

def isPrimary (r : Resource) : Bool := r.role == "primary"

end Resource

/-- An input variable; `value` is what the project assigns to it. -/
structure Variable where
  name : String
  type : String := "string"
  description : String := ""
  default : Value := .null
  sensitive : Bool := false
  value : Value := .null
  deriving Inhabited, Repr

structure Output where
  name : String
  value : Value
  description : String := ""
  sensitive : Bool := false
  deriving Inhabited, Repr

structure Graph where
  provider : String
  service : String
  resources : List Resource := []
  inputs : List Variable := []
  outputs : List Output := []
  deriving Inhabited, Repr

/-- Data lookups first, then dependencies, then primary resources. -/
def ordered (rs : List Resource) : List Resource :=
  rs.filter (·.isData) ++ rs.filter (fun r => !r.isData && r.isDependency)
    ++ rs.filter (fun r => !r.isData && r.isPrimary)

theorem mem_of_mem_ordered {rs : List Resource} {r : Resource} (h : r ∈ ordered rs) : r ∈ rs := by
  simp only [ordered, List.mem_append, List.mem_filter] at h
  rcases h with (h | h) | h <;> exact h.1

namespace Graph

def dependencies (g : Graph) : List Resource := g.resources.filter (·.isDependency)

def primaries (g : Graph) : List Resource := g.resources.filter (·.isPrimary)

/-- The resources of a type. -/
def find (g : Graph) (type : String) : List Resource := g.resources.filter (·.type == type)

def addresses (g : Graph) : List String := g.resources.map (·.address)

/-- The provider and service, as messages name them. -/
def label (g : Graph) : String := g.provider ++ "/" ++ g.service

end Graph

end CloudScaffold
