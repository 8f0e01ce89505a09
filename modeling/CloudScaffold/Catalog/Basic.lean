import CloudScaffold.Catalog.Aws
import CloudScaffold.Catalog.Azure
import CloudScaffold.Catalog.Gcp
/-!
# The catalog

A catalog lists providers with their services, in display order. `Catalog.shipped` is the catalog of
this library; `Catalog.load` reads one from entries. A look-up fails for a provider or a service
that is not listed (`LookupError`).

`Catalog.load` is TerraForge's `_load_catalog`. `Catalog.providerIds`, `Catalog.services` and
`Catalog.service` are its `list_providers`, `list_services` and `get_service`.
-/
namespace CloudScaffold

/-- A provider and what it offers. -/
structure Provider where
  id : String
  name : String
  services : List Service
  deriving Inhabited

abbrev Catalog := List Provider

/-- A look-up in vain. -/
inductive LookupError where
  | unknownProvider (provider : String)
  | unknownService (provider service : String)
  deriving DecidableEq, Repr

def LookupError.message : LookupError → String
  | unknownProvider p => s!"Unknown provider '{p}'"
  | unknownService p s => s!"Unknown service '{s}' for provider '{p}'"

namespace Catalog

/-- Everything that can be provisioned. -/
def shipped : Catalog :=
  [⟨"aws", "Amazon Web Services", Aws.services⟩,
   ⟨"gcp", "Google Cloud Platform", Gcp.services⟩,
   ⟨"azure", "Microsoft Azure", Azure.services⟩]

/-- The provider ids in display order. -/
def providerIds (c : Catalog) : List String := c.map (·.id)

/-- The entry of a provider. -/
def provider (c : Catalog) (id : String) : Except LookupError Provider :=
  match c.find? (·.id == id) with
  | some p => .ok p
  | none => .error (.unknownProvider id)

/-- The services of a provider in display order. -/
def services (c : Catalog) (provider : String) : Except LookupError (List Service) :=
  (c.provider provider).map (·.services)

/-- A service of a provider. -/
def service (c : Catalog) (provider id : String) : Except LookupError Service := do
  match (← c.services provider).find? (·.id == id) with
  | some s => .ok s
  | none => .error (.unknownService provider id)

/-- Reads the services of a provider, which must have different ids. -/
def loadServices (provider : String) (seen : List String) :
    List Attributes → Except SchemaError (List Service)
  | [] => .ok []
  | e :: es => do
    let id := (← requireMember e "id").text
    if seen.contains id then throw (.duplicateService id provider)
    let s ← Service.load e
    let rest ← loadServices provider (id :: seen) es
    .ok (s :: rest)

/-- A provider to be loaded: its id, its name and the entries of its services. -/
abbrev Listed := String × String × List Attributes

/-- Lists a provider: in place if its id is listed, else at the end. -/
def enlist (ps : List Listed) (p : Listed) : List Listed :=
  if ps.any (·.1 == p.1) then ps.map fun q => if q.1 = p.1 then p else q else ps ++ [p]

/-- Reads the services of providers in turn. -/
def loadProviders : List Listed → Except SchemaError Catalog
  | [] => .ok []
  | (id, name, entries) :: r => do
    let services ← loadServices id [] entries
    let rest ← loadProviders r
    .ok (⟨id, name, services⟩ :: rest)

/-- Reads a catalog. A provider that is listed again keeps its first place. -/
def load (ps : List Listed) : Except SchemaError Catalog := loadProviders (ps.foldl enlist [])

end Catalog

end CloudScaffold
