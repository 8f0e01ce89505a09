import CloudScaffold.Catalog.Schema
import CloudScaffold.Graph.Basic
import CloudScaffold.Text.Slug
/-!
# Drafts

A draft is the unfinished graph of one service: the resources, variables and outputs made so far, in
the order in which they were made. It only grows. Names derive from the value of the service's
naming field: resources get its slug with a role behind it, labels get its text.

A sensitive value never leaves a draft as it is: `value` declares a sensitive variable that carries
it, once, and hands out the variable.

A draft is TerraForge's `BuildContext`. Its methods keep their names, but for `name`, `get` and
`variable`, which are `nameOf`, `kind?` and `declare`.
-/
namespace CloudScaffold

open Text Number

/-- An unfinished graph. `kinds` maps a dependency kind to the resource made for it last. -/
structure Draft where
  provider : String
  service : Service
  values : Attributes
  phase : String := "dependency"
  resources : List Resource := []
  inputs : List Variable := []
  outputs : List Output := []
  kinds : List (String × Resource) := []
  deriving Inhabited

/-- The slug of a value; a value that does not count as given has the empty one. -/
def Value.slug (v : Value) : String := if v.truthy then Text.slug v.text else ""

namespace Draft

/-- The value of the naming field; null if there is none. -/
def namingValue (d : Draft) : Value :=
  (d.service.namingField?.bind fun f => d.values.get? f.name).getD .null

/-- The text that labels are made of. -/
def displayName (d : Draft) : String :=
  if d.namingValue.isAbsent then d.service.id else d.namingValue.text

/-- The slug that names are made of. -/
def base (d : Draft) : String := d.namingValue.slug

/-- The local name of a resource with a role. -/
def nameOf (d : Draft) (role : String) : String :=
  if d.base = "" then role else d.base ++ "_" ++ role

/-- The display name, with a suffix if there is one. -/
def label (d : Draft) (suffix : String) : String :=
  if suffix = "" then d.displayName else d.displayName ++ "-" ++ suffix

/-- The tags that every taggable resource carries. -/
def tags (d : Draft) (suffix : String) : Attributes :=
  [("Name", .str (d.label suffix)), ("ManagedBy", .str "terraform")]

/-- The resource of a kind. -/
def kind? (d : Draft) (kind : String) : Option Resource := d.kinds.lookup kind

/-- What a resource is made from; an empty kind registers nothing, and an empty graph role stands
for the phase of the draft. -/
structure Making where
  type : String
  attributes : Attributes
  role : String := "main"
  mode : String := "resource"
  kind : String := ""
  graphRole : String := ""

/-- The resource that a making gives; null attributes are left out. -/
def made (d : Draft) (m : Making) : Resource where
  type := m.type
  name := d.nameOf m.role
  attributes := m.attributes.filter fun kv => !kv.2.isNull
  mode := m.mode
  role := if m.graphRole = "" then d.phase else m.graphRole

/-- Adds a resource. -/
def add (d : Draft) (m : Making) : Draft :=
  let r := d.made m
  { d with
    resources := d.resources ++ [r]
    kinds := if m.kind = "" then d.kinds else (m.kind, r) :: d.kinds }

/-- Declares a variable, unless one of its name is declared already. -/
def declare (d : Draft) (v : Variable) : Draft :=
  if d.inputs.any (·.name == v.name) then d else { d with inputs := d.inputs ++ [v] }

def output (d : Draft) (o : Output) : Draft := { d with outputs := d.outputs ++ [o] }

def setPhase (d : Draft) (phase : String) : Draft := { d with phase := phase }

/-- The given value of a field, or a default if none is given. -/
def given (d : Draft) (field : String) (default : Value) : Value :=
  (d.values.get? field).getD default

/-- Whether a value of a field must go through a variable. -/
def isSecret (d : Draft) (field : String) (v : Value) : Bool :=
  d.service.isSensitive field && !v.isNull

/-- The variable for a sensitive field. -/
def secret (d : Draft) (field : String) (v : Value) : Variable where
  name := field
  description := titleWords field ++ " for " ++ d.service.name
  sensitive := true
  value := v

/-- The value of a field as it may be used: a sensitive one as its variable. -/
def usable (d : Draft) (field : String) (default : Value) : Value :=
  let v := d.given field default
  if d.isSecret field v then .var field else v

/-- Takes the value of a field, declaring its variable if the field is sensitive. -/
def value (d : Draft) (field : String) (default : Value) : Value × Draft :=
  let v := d.given field default
  (d.usable field default, if d.isSecret field v then d.declare (d.secret field v) else d)

/-- Whether a field is switched on: true, or a text that says so. -/
def flag (d : Draft) (field : String) : Bool :=
  match d.values.get? field with
  | some (.bool b) => b
  | some v => v.isText "Enabled" || v.isText "true"
  | none => false

end Draft

end CloudScaffold
