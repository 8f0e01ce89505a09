import CloudScaffold.Contract.Basic
import CloudScaffold.Hcl.Render
/-!
# Project files

`projectFiles` writes a graph as the files of a project, in a fixed order: versions, providers,
variables, the resources, the outputs if there are any, and the variable values if any variable has
one. The resources stand under a title for each class, as `ordered` lists them.

`projectFiles` is TerraForge's `serialize_graph`. Its files are those of `render_versions`,
`render_providers`, `render_variables`, `render_main`, `render_outputs` and `render_tfvars`.
-/
namespace CloudScaffold.Hcl

/-- Why a graph cannot be written. -/
inductive FilesError where
  /-- No contract for the graph's provider. -/
  | noContract
  | render (cause : RenderError)
  deriving DecidableEq, Repr

def FilesError.message : FilesError → String
  | noContract => "The provider has no contract"
  | render e => e.message

/-- The lowest version of Terraform that a project accepts. -/
def requiredVersion : String := ">= 1.3"

/-- An optional text attribute: the empty text is left out. -/
def optionalText (s : String) : Value := if s = "" then .null else .str s

/-- An attribute that is only written when it holds. -/
def optionalFlag (b : Bool) : Value := if b then .bool true else .null

/-- The file that pins Terraform and the provider. -/
def renderVersions (localName : String) (source version : Value) : Except RenderError String := do
  let provider : Value := .map [("source", source), ("version", version)]
  .ok (fileText [← renderBlock 0 "terraform" []
    [("required_version", .str requiredVersion),
     ("required_providers", .block [(localName, provider)])]])

/-- The file that configures the provider. -/
def renderProviders (localName : String) (block : Attributes) : Except RenderError String := do
  .ok (fileText [← renderBlock 0 "provider" [localName] (Contract.blockEntries block)])

/-- The declaration of a variable. -/
def variableAttributes (v : Variable) : Attributes :=
  [("description", optionalText v.description), ("type", .raw v.type), ("default", v.default),
   ("sensitive", optionalFlag v.sensitive)]

def renderVariables (vs : List Variable) : Except RenderError String := do
  .ok (fileText (← vs.mapM fun v => renderBlock 0 "variable" [v.name] (variableAttributes v)))

/-- The block of a resource or data source. -/
def renderResource (r : Resource) : Except RenderError (List String) :=
  renderBlock 0 (if r.isData then "data" else "resource") [r.type, r.name] r.attributes

/-- The titles of the classes, each with its resources. -/
def classes (rs : List Resource) : List (String × List Resource) :=
  [("Data sources", rs.filter (·.isData)),
   ("Dependencies", rs.filter fun r => !r.isData && r.isDependency),
   ("Primary resources", rs.filter fun r => !r.isData && r.isPrimary)]

/-- The classes hold the resources as they are listed. -/
theorem flatMap_classes (rs : List Resource) : (classes rs).flatMap (·.2) = ordered rs := by
  simp [classes, ordered]

/-- The groups of lines of one class; a class without resources has none. -/
def renderClass (c : String × List Resource) : Except RenderError (List (List String)) := do
  if c.2.isEmpty then .ok [] else .ok (["# " ++ c.1] :: (← c.2.mapM renderResource))

/-- The file of the resources. -/
def renderMain (g : Graph) : Except RenderError String := do
  let groups ← (classes g.resources).mapM renderClass
  .ok (fileText (["# Generated for " ++ g.label] :: groups.flatten))

/-- The declaration of an output. -/
def outputAttributes (o : Output) : Attributes :=
  [("description", optionalText o.description), ("value", o.value),
   ("sensitive", optionalFlag o.sensitive)]

def renderOutputs (os : List Output) : Except RenderError String := do
  .ok (fileText (← os.mapM fun o => renderBlock 0 "output" [o.name] (outputAttributes o)))

/-- The values of the variables that have one, each name once. -/
def assignments (vs : List Variable) : Attributes :=
  .ofEntries ((vs.filter fun v => !v.value.isNull).map fun v => (v.name, v.value))

/-- The file of the variable values. -/
def renderAssignments (vs : List Variable) : Except RenderError String := do
  .ok (unlines (← renderBody 0 (assignments vs)) ++ "\n")

/-- A graph as the files of a project. -/
def projectFiles (g : Graph) : Except FilesError (List (String × String)) := do
  let some c := Contract.find? g.provider | .error .noContract
  let file (name : String) (text : Except RenderError String) :=
    (text.mapError FilesError.render).map fun t => [(name, t)]
  let versions ← file "versions.tf" (renderVersions c.localName (.str c.source) (.str c.version))
  let providers ← file "providers.tf" (renderProviders c.localName c.providerBlock)
  let declarations ← file "variables.tf" (renderVariables g.inputs)
  let main ← file "main.tf" (renderMain g)
  let outputs ← if g.outputs.isEmpty then .ok [] else file "outputs.tf" (renderOutputs g.outputs)
  let values ← if (assignments g.inputs).isEmpty then .ok []
    else file "terraform.tfvars" (renderAssignments g.inputs)
  .ok (versions ++ providers ++ declarations ++ main ++ outputs ++ values)

end CloudScaffold.Hcl
