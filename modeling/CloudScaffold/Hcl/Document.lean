import CloudScaffold.Contract.Document
import CloudScaffold.Hcl.Files
/-!
# Files of a contract document

The files and declarations that depend on a contract alone, from a document that need not be a whole
contract. Members are looked for in the order in which they are written.

These are TerraForge's `render_versions`, `render_providers` and `provider_variables` for any document.
-/
namespace CloudScaffold.Hcl

open Contract

/-- Why a document gives no file. -/
inductive DocumentError where
  | missing (cause : MissingMember)
  | render (cause : RenderError)
  /-- A name that is no text, where a key is to be written. -/
  | noKey
  /-- A name that is no text, where a label is to be written. -/
  | noLabel
  /-- A provider block that is no mapping. -/
  | noEntries
  /-- Variables that are no list of mappings. -/
  | noVariables
  deriving DecidableEq, Repr

/-- The text that a value is, if it is one. -/
def textOf? : Value → Option String
  | .str s | .raw s => some s
  | _ => none

/-- The file that pins Terraform and the provider. -/
def versionsOf (doc : Attributes) : Except DocumentError String := do
  let localName ← (member doc "local_name").mapError .missing
  let source ← (member doc "source").mapError .missing
  let version ← (member doc "version").mapError .missing
  let some key := textOf? localName | .error .noKey
  (renderVersions key source version).mapError .render

/-- The file that configures the provider. -/
def providersOf (doc : Attributes) : Except DocumentError String := do
  let block ← (member doc "provider_block").mapError .missing
  let .map entries := block | .error .noEntries
  let localName ← (member doc "local_name").mapError .missing
  let some label := textOf? localName | .error .noLabel
  (renderProviders label entries).mapError .render

/-- The declaration of a variable, which must be a mapping. -/
def declarationOf : Value → Except DocumentError Variable
  | .map kvs => (Contract.declarationOf kvs).mapError .missing
  | _ => .error .noVariables

/-- The declarations of the provider's variables; what is empty has none. -/
def declarationsOf (doc : Attributes) : Except DocumentError (List Variable) := do
  match ← (member doc "variables").mapError .missing with
  | .list vs | .tuple vs => vs.mapM declarationOf
  | .map [] | .str "" | .raw "" => .ok []
  | _ => .error .noVariables

end CloudScaffold.Hcl
