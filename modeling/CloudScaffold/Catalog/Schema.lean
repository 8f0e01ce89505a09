import CloudScaffold.Catalog.Pattern
import CloudScaffold.Value.Text
/-!
# Service schemas

A service of a provider has input fields and declares the kinds of dependencies that it needs.
`Service.load` reads a service from an entry, its fields first and in order, and reports the first
fault: a member that is missing, or a rule that the field or the service breaks.

The first required field names the resources that are made for a service (`namingField?`).

`Field` and `Service` are TerraForge's `FieldSpec` and `ServiceDefinition`, `Field.check` and
`Service.check` what these make sure of when they are made, and `Service.load` is `_load_service`.
-/
namespace CloudScaffold

inductive FieldKind where
  | string
  | boolean
  | enum
  deriving DecidableEq, Repr

namespace FieldKind

def name : FieldKind → String
  | string => "string"
  | boolean => "boolean"
  | enum => "enum"

def ofName? : String → Option FieldKind
  | "string" => some string
  | "boolean" => some boolean
  | "enum" => some enum
  | _ => none

end FieldKind

/-- An input field. A null default is no default; a sensitive value goes through a variable. -/
structure Field where
  name : String
  kind : FieldKind := .string
  required : Bool := false
  allowed : List String := []
  default : Value := .null
  pattern : Option Pattern := none
  sensitive : Bool := false
  deriving Inhabited, Repr

def categories : List String :=
  ["Compute", "Storage", "Database", "Networking", "Security", "Messaging", "Monitoring"]

structure Service where
  id : String
  name : String
  category : String
  dependencies : List String := []
  fields : List Field := []
  description : String := ""
  deriving Inhabited, Repr

namespace Service

/-- The field of a name. -/
def field? (s : Service) (name : String) : Option Field := s.fields.find? (·.name == name)

/-- The first required field. -/
def namingField? (s : Service) : Option Field := s.fields.find? (·.required)

/-- Whether a field of a name is sensitive. -/
def isSensitive (s : Service) (name : String) : Bool :=
  (s.field? name).any (·.sensitive)

end Service

/-- Why an entry is no service. -/
inductive SchemaError where
  | missing (member : String)
  /-- A member of the wrong kind of value. -/
  | malformed
  | unknownKind (field kind : String)
  | unknownPattern (field : String)
  | noAllowedValues (field : String)
  | defaultNotAllowed (field default : String) (allowed : List String)
  | allowedValuesOfNonEnum (field : String)
  | defaultNotBoolean (field : String)
  | unknownCategory (service category : String)
  | duplicateFields (service : String) (fields : List String)
  | duplicateDependency (service : String)
  | duplicateService (service provider : String)
  deriving DecidableEq, Repr

/-- The wording of a schema error. -/
def SchemaError.message : SchemaError → String
  | missing m => Text.literal m
  | malformed => "A member of the entry is of the wrong kind"
  | unknownKind f k => s!"Field '{f}' has unknown kind '{k}'"
  | unknownPattern f => s!"Field '{f}' has a pattern of no known form"
  | noAllowedValues f => s!"Enum field '{f}' must declare allowed values"
  | defaultNotAllowed f d xs =>
    s!"Default '{d}' of field '{f}' is not one of {Text.literalList xs}"
  | allowedValuesOfNonEnum f => s!"Only enum fields may declare allowed values (field '{f}')"
  | defaultNotBoolean f => s!"Default of boolean field '{f}' must be a bool"
  | unknownCategory s c => s!"Service '{s}' has unknown category '{c}'"
  | duplicateFields s fs => s!"Service '{s}' declares duplicate fields: {Text.literalList fs}"
  | duplicateDependency s => s!"Service '{s}' declares a dependency kind twice"
  | duplicateService s p => s!"Duplicate service '{s}' for provider '{p}'"

/-- A member that an entry must have. -/
def requireMember (entry : Attributes) (k : String) : Except SchemaError Value :=
  match entry.get? k with
  | some v => .ok v
  | none => .error (.missing k)

/-- The texts of a list of texts; a missing member is an empty list. -/
def textList : Option Value → Except SchemaError (List String)
  | none => .ok []
  | some (.list xs) => .ok (xs.map (·.text))
  | some _ => .error .malformed

def isBool : Value → Bool
  | .bool _ => true
  | _ => false

/-- Checks that allowed values and default go with the kind. -/
def Field.check (f : Field) : Except SchemaError Field :=
  let isAllowed (v : Value) := match v with
    | .str s => f.allowed.contains s
    | _ => false
  if f.kind = .enum then
    if f.allowed.isEmpty then .error (.noAllowedValues f.name)
    else if !f.default.isNull && !isAllowed f.default then
      .error (.defaultNotAllowed f.name f.default.text f.allowed)
    else .ok f
  else if !f.allowed.isEmpty then .error (.allowedValuesOfNonEnum f.name)
  else if f.kind = .boolean && !f.default.isNull && !isBool f.default then
    .error (.defaultNotBoolean f.name)
  else .ok f

/-- The pattern of an entry; null is no pattern. -/
def loadPattern (field : String) : Option Value → Except SchemaError (Option Pattern)
  | none | some .null => .ok none
  | some v => match Pattern.ofSource? v.text with
    | some p => .ok (some p)
    | none => .error (.unknownPattern field)

/-- Reads a field. -/
def Field.load (entry : Attributes) : Except SchemaError Field := do
  let name := (← requireMember entry "name").text
  let kind := ((entry.get? "kind").map (·.text)).getD "string"
  let allowed ← textList (entry.get? "allowed_values")
  let some k := FieldKind.ofName? kind | .error (.unknownKind name kind)
  let field : Field :=
    { name := name, kind := k, required := (entry.get? "required").any (·.truthy)
      allowed := allowed, default := (entry.get? "default").getD .null
      pattern := ← loadPattern name (entry.get? "pattern")
      sensitive := (entry.get? "sensitive").any (·.truthy) }
  field.check

/-- The texts that occur more than once, each once, in order of code points. -/
def repeated (xs : List String) : List String :=
  (xs.eraseDups.filter fun x => 1 < xs.count x).mergeSort (· ≤ ·)

/-- Checks the category, the field names and the dependencies. -/
def Service.check (s : Service) : Except SchemaError Service :=
  let twice := repeated (s.fields.map (·.name))
  if !categories.contains s.category then .error (.unknownCategory s.id s.category)
  else if !twice.isEmpty then .error (.duplicateFields s.id twice)
  else if !(repeated s.dependencies).isEmpty then .error (.duplicateDependency s.id)
  else .ok s

/-- The entries of a list of entries; a missing member is an empty list. -/
def entryList : Option Value → Except SchemaError (List Attributes)
  | none => .ok []
  | some (.list xs) => xs.mapM fun
    | .map kvs => .ok kvs
    | _ => .error .malformed
  | some _ => .error .malformed

/-- Reads a service. -/
def Service.load (entry : Attributes) : Except SchemaError Service := do
  let fields ← (← entryList (entry.get? "fields")).mapM Field.load
  let id := (← requireMember entry "id").text
  let name := (← requireMember entry "name").text
  let category := (← requireMember entry "category").text
  let dependencies ← textList (entry.get? "dependencies")
  let service : Service :=
    { id := id, name := name, category := category, dependencies := dependencies, fields := fields
      description := ((entry.get? "description").map (·.text)).getD "" }
  service.check

end CloudScaffold
