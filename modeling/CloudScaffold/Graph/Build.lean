import CloudScaffold.Catalog.Basic
import CloudScaffold.Graph.Check
import CloudScaffold.Template.Registry
import CloudScaffold.Template.Run
/-!
# Building a graph

`Registry.build` runs the templates of a service's dependency kinds in declared order, then the
template of the service itself, puts the resources in order and checks the references. The variables
of the provider come first.

`Registry.checkCatalog` says beforehand whether every service of a catalog has what it takes: a
contract, a template for each dependency kind with the kinds it needs before it, and a template of
its own.

`Registry.build` is TerraForge's `build_graph` and `Registry.checkCatalog` its `check_catalog`, for any
registry; `buildGraph` is for the one that is shipped.
-/
namespace CloudScaffold

/-- Why a registry does not fit a service, or a graph cannot be built. -/
inductive BuildError where
  | unknownProvider (provider : String)
  | noContract (provider : String)
  | unknownDependency (provider service kind : String)
  | prerequisiteMissing (provider service kind required : String)
  | noPrimary (provider service : String)
  | template (fault : TemplateFault)
  /-- A fault in the graph of a provider's service. -/
  | graph (label : String) (fault : GraphFault)
  deriving DecidableEq, Repr

def BuildError.message : BuildError → String
  | unknownProvider p => (LookupError.unknownProvider p).message
  | noContract p => s!"Provider '{p}' has no contract"
  | unknownDependency p s k =>
    s!"Service '{p}/{s}' declares dependency '{k}' which has no template for provider '{p}'"
  | prerequisiteMissing p s k r =>
    s!"Service '{p}/{s}' declares '{k}' without declaring '{r}' before it"
  | noPrimary p s => s!"No primary template registered for '{p}/{s}'"
  | template f => f.message
  | graph label f => f.message label

/-- The draft that a service starts from. -/
def Draft.start (provider : String) (service : Service) (values : Attributes) : Draft :=
  { provider := provider, service := service, values := values }

/-- Runs a template on a draft that is kept only if nothing fails. -/
def Draft.apply (d : Draft) (t : Template) : Except TemplateFault Draft :=
  match t.run d with
  | (.ok (), d') => .ok d'
  | (.error e, _) => .error e

namespace Registry

/-- Runs the templates of dependency kinds in order. -/
def buildDependencies (r : Registry) (d : Draft) : List String → Except BuildError Draft
  | [] => .ok d
  | k :: ks => do
    let some t := r.dependency? d.provider k
      | .error (.unknownDependency d.provider d.service.id k)
    let d' ← (d.apply t).mapError .template
    r.buildDependencies d' ks

/-- Runs the template of the service. -/
def buildPrimary (r : Registry) (d : Draft) : Except BuildError Draft := do
  let some t := r.primary? d.provider d.service.id
    | .error (.noPrimary d.provider d.service.id)
  ((d.setPhase "primary").apply t).mapError .template

/-- The graph of a finished draft. -/
def graphOf (c : Contract) (d : Draft) : Graph where
  provider := d.provider
  service := d.service.id
  resources := ordered d.resources
  inputs := c.declarations ++ d.inputs
  outputs := d.outputs

/-- Builds the graph of a service. -/
def build (r : Registry) (provider : String) (service : Service) (values : Attributes) :
    Except BuildError Graph := do
  let some c := r.contract? provider | .error (.unknownProvider provider)
  let d ← r.buildDependencies (.start provider service values) service.dependencies
  let d ← r.buildPrimary d
  let g := graphOf c d
  g.check.mapError (.graph g.label)
  .ok g

/-- Checks that the kinds that a kind needs are declared before it. -/
def checkPrerequisites (provider service kind : String) (before : List String) :
    List String → Except BuildError Unit
  | [] => .ok ()
  | q :: qs =>
    if before.contains q then checkPrerequisites provider service kind before qs
    else .error (.prerequisiteMissing provider service kind q)

/-- Checks the dependency kinds that follow those in `before`. -/
def checkKinds (r : Registry) (c : Contract) (provider service : String) (before : List String) :
    List String → Except BuildError Unit
  | [] => .ok ()
  | k :: ks => do
    let some needed := c.prerequisites.lookup k
      | .error (.unknownDependency provider service k)
    if !dependencyKinds.contains k || (r.dependency? provider k).isNone then
      throw (.unknownDependency provider service k)
    checkPrerequisites provider service k before needed
    r.checkKinds c provider service (before ++ [k]) ks

def checkService (r : Registry) (c : Contract) (provider : String) (s : Service) :
    Except BuildError Unit := do
  r.checkKinds c provider s.id [] s.dependencies
  if (r.primary? provider s.id).isNone then throw (.noPrimary provider s.id)

def checkServices (r : Registry) (c : Contract) (provider : String) :
    List Service → Except BuildError Unit
  | [] => .ok ()
  | s :: ss => do
    r.checkService c provider s
    r.checkServices c provider ss

/-- Checks that a registry has what the services of a catalog need. -/
def checkCatalog (r : Registry) : Catalog → Except BuildError Unit
  | [] => .ok ()
  | p :: ps => do
    let some c := r.contract? p.id | .error (.noContract p.id)
    r.checkServices c p.id p.services
    r.checkCatalog ps

end Registry

/-- Builds the graph of a service with the templates of this library. -/
def buildGraph (provider : String) (service : Service) (values : Attributes) :
    Except BuildError Graph :=
  Registry.shipped.build provider service values

end CloudScaffold
