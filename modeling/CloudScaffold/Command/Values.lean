import CloudScaffold.Text.Parts
import CloudScaffold.Value.Basic
import CloudScaffold.Yaml.Datum
/-!
# Values from the command line

The values of a request come from assignments `name=value` and from a file, a mapping of names to
values. In a file truth values and nulls are kept; everything else is taken as the text that would
have been typed. A name that comes twice keeps its first place and its last value.

`parseAssignments` is TerraForge's `parse_set_options`, and `loadValues` is `load_values_file` for the
text of the file.
-/
namespace CloudScaffold.Command

open Text Number

/-- Why values cannot be read. -/
inductive ValuesError where
  /-- A text that does not assign a value to a name. -/
  | noAssignment (text : String)
  /-- A file whose document is no mapping. -/
  | noMapping
  | document (cause : Yaml.Fault)
  deriving DecidableEq, Repr

def ValuesError.message : ValuesError → String
  | noAssignment t => s!"Expected name=value, got '{t}'"
  | noMapping => "Values file must contain a mapping of field names to values"
  | document e => e.message

/-- The name and the value of an assignment. -/
def parseAssignment (text : String) : Except ValuesError (String × Value) :=
  match cutAt? '=' text.toList with
  | none => .error (.noAssignment text)
  | some (name, value) =>
    if (trimChars name).isEmpty then .error (.noAssignment text)
    else .ok (.ofList (trimChars name), .str (.ofList value))

/-- The values of assignments. -/
def parseAssignments (texts : List String) : Except ValuesError Attributes :=
  (texts.mapM parseAssignment).map .ofEntries

/-- A text with all line breaks of one kind. -/
def plainBreaks : List Char → List Char
  | '\r' :: '\n' :: r => '\n' :: plainBreaks r
  | '\r' :: r => '\n' :: plainBreaks r
  | c :: r => c :: plainBreaks r
  | [] => []

/-- The value that a datum gives a field. -/
def valueOf (d : Yaml.Data) : Yaml.Datum → Except NumberError Value
  | .atom .null => .ok .null
  | .atom (.bool b) => .ok (.bool b)
  | x => (d.write x).map .str

/-- An entry of a file as a field and its value. -/
def entryOf (d : Yaml.Data) (e : Yaml.Atom × Yaml.Datum) : Except NumberError (String × Value) := do
  .ok (← e.1.write, ← valueOf d e.2)

/-- The entries of the mapping at the top of a file. -/
def fileEntries? (d : Yaml.Data) : Option (List (Yaml.Atom × Yaml.Datum)) :=
  match d.root with
  | .atom _ => none
  | .shared n => match d.collection n with
    | .map es => some es
    | _ => none

/-- The values in the text of a file; a file that says nothing has none. -/
def loadValues (text : String) : Except ValuesError Attributes := do
  let d ← (Yaml.Data.ofText (.ofList (plainBreaks text.toList))).mapError .document
  match fileEntries? d with
  | some es =>
    ((es.mapM (entryOf d)).map Attributes.ofEntries).mapError fun e => .document (.number e)
  | none => if d.truthy d.root then .error .noMapping else .ok []

end CloudScaffold.Command
