import CloudScaffold.Contract.Basic
import CloudScaffold.Value.Text
/-!
# Contracts as documents

A contract can be shown as a document, and a document can take the place of a contract where only
some of its members are needed. `member` asks for one that must be there.

TerraForge keeps its contracts as such documents.
-/
namespace CloudScaffold.Contract

/-- A member that a document lacks. -/
structure MissingMember where
  name : String
  deriving DecidableEq, Repr

/-- The value of a member that must be there. -/
def member (doc : Attributes) (k : String) : Except MissingMember Value :=
  match doc.get? k with
  | some v => .ok v
  | none => .error ⟨k⟩

/-- A contract as a document. -/
def document (c : Contract) : Attributes :=
  [("provider_id", .str c.provider), ("local_name", .str c.localName), ("source", .str c.source),
   ("version", .str c.version), ("provider_block", .map c.providerBlock),
   ("variables", .list (c.inputs.map fun v =>
      .map [("name", .str v.name), ("description", .str v.description), ("default", v.default)])),
   ("prerequisites", .map (c.prerequisites.map fun p => (p.1, .list (p.2.map .str))))]

/-- The declaration of a variable in a document; its default may be missing. -/
def declarationOf (doc : Attributes) : Except MissingMember Variable := do
  let name ← member doc "name"
  let description ← member doc "description"
  .ok { name := name.text, description := description.text
        default := (doc.get? "default").getD .null }

end CloudScaffold.Contract
