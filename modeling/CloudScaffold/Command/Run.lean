import CloudScaffold.Catalog.Listing
import CloudScaffold.Command.Session
/-!
# The command

`command` is the session of a command line: it prints the catalog, or it collects the values of a
service, has its files generated, and prints or writes them.

The values come from a file, then from assignments, and last from the user, who is asked for every
required field that has neither a value nor a default.

`command` is TerraForge's `run`. Of the functions it calls, `choose` is `choose`, `askMissing` is
`prompt_missing_values` and `writeFiles` is `write_files`.
-/
namespace CloudScaffold.Command

open Session

/-- A line across the page. -/
def rule : String := .ofList (List.replicate 80 '=')

def sayLine (text : String) : Session Unit := say (text ++ "\n") (pure ())

/-- Says lines between two rules. -/
def sayFramed (lines : List String) : Session Unit := do
  sayLine rule
  lines.forM sayLine
  sayLine rule

/-- Asks for a line. -/
def askLine (label : String) : Session String := say label (line pure)

/-- Options, numbered from one on. -/
def numbered (options : List String) : List String :=
  options.mapIdx fun i o => s!"  {i + 1}. {o}"

/-- Lets the user choose under a title. -/
def choose (title : String) (options : List String) : Session String := do
  sayLine title
  (numbered options).forM sayLine
  choice options pure

/-- An option that is given and not empty. -/
def given? (value : Option String) : Option String := value.filter (· != "")

/-- A value that must be given, or be chosen if there is someone to choose. -/
def require (o : Options) (option title : String) (value : Option String)
    (choices : Except LookupError (List String)) : Session (Except LookupError String) :=
  match given? value with
  | some v => pure (.ok v)
  | none =>
    if !o.interactive then stop (.required option)
    else match choices with
      | .error e => pure (.error e)
      | .ok options => Except.ok <$> choose title options

/-- The provider and the service that are asked for. -/
def findService (o : Options) : Session (Except LookupError (String × Service)) := do
  let c := Catalog.shipped
  match ← require o "--provider" "Select a cloud provider:" o.provider (.ok c.providerIds) with
  | .error e => pure (.error e)
  | .ok provider =>
    let ids := (c.services provider).map fun ss => ss.map (·.id)
    match ← require o "--service" "Select a service:" o.service ids with
    | .error e => pure (.error e)
    | .ok service => pure ((c.service provider service).map fun s => (provider, s))

/-- The result of a look-up; in vain, the session ends. -/
def orSayError {α : Type} : Except LookupError α → Session α
  | .ok a => pure a
  | .error e => do
    sayLine s!"Error: {e.message}"
    stop (.exit 1)

/-- The values of the values file and the assignments. -/
def givenValues (o : Options) : Session Attributes := do
  let fromFile ← match o.valuesFile with
    | none => pure []
    | some path => do
      let text ← readFile (.ofText path) pure
      ofExcept .values (loadValues text)
  let assigned ← ofExcept .values (parseAssignments o.assignments)
  pure (assigned.foldl (fun values kv => values.insert kv.1 kv.2) fromFile)

/-- Whether a field must be asked for. -/
def isWanting (f : Field) (values : Attributes) : Bool :=
  f.required && f.default.isNull && ((values.get? f.name).getD .null).isAbsent

/-- The name of a field in questions. -/
def labelOf (f : Field) : String :=
  .ofList (f.name.toList.map fun c => if c = '_' then ' ' else c)

/-- Asks for the value of a field. -/
def askField (f : Field) : Session String :=
  if f.kind = .enum then choose s!"Select {labelOf f}:" f.allowed
  else askLine s!"Enter {labelOf f}: "

/-- Asks for the values of the fields that want one. -/
def askMissing : List Field → Attributes → Session Attributes
  | [], values => pure values
  | f :: fs, values => do
    if isWanting f values then
      let v ← askField f
      askMissing fs (values.insert f.name (.str v))
    else askMissing fs values

/-- The lines about an error of a field. -/
def errorLines (e : FieldError) : List String :=
  s!"  - {e.field}: {e.reason}" :: match e.options with
    | some (o :: os) => ["    options: " ++ ", ".intercalate (o :: os)]
    | _ => []

/-- Writes files into a directory, and then says where they are. -/
def writeFiles (directory : Path) (files : List (String × String)) : Session Unit := do
  makeDirectory directory (pure ())
  files.forM fun f => writeFile (directory.child f.1) f.2 (pure ())
  files.forM fun f => sayLine s!"  wrote {(directory.child f.1).text}"

/-- Prints files. -/
def printFiles (files : List (String × String)) : Session Unit :=
  files.forM fun f => do
    sayFramed ["# " ++ f.1]
    sayLine f.2

/-- Reports what was generated. -/
def report (o : Options) (g : Generation) : Session Unit := do
  if !g.errors.isEmpty then
    sayLine "The following fields need attention:"
    (g.errors.flatMap errorLines).forM sayLine
    stop (.exit 1)
  else
    match o.out with
    | some directory => writeFiles (.ofText directory) g.files
    | none => printFiles g.files
    sayLine ""
    sayFramed [s!"Generated {g.files.length} file(s) from {g.origin.name}"]

/-- Generates the files of a service. `always` says that the assistant is always asked. -/
def generateCommand (always : Bool) (o : Options) : Session Unit := do
  sayLine ""
  sayFramed ["TERRAFORGE - TERRAFORM GENERATOR"]
  sayLine ""
  let (provider, service) ← orSayError (← findService o)
  let values ← givenValues o
  let values ← if o.interactive then askMissing service.fields values else pure values
  sayLine ""
  sayLine s!"Generating Terraform for {service.name} ({provider}/{service.id})..."
  sayLine ""
  let request : Request :=
    { provider := provider, service := service.id, values := values
      prompt := o.prompt.getD "", useAssistant := o.useAssistant }
  report o (← ofExcept .generation (← generate (fun q => consult q pure) always request))

/-- Prints the catalog. -/
def listCommand (o : Options) : Session Unit := do
  say (← orSayError (Catalog.shipped.listing o.provider)) (pure ())

/-- How the command is called. -/
def help : List String :=
  ["Generate dependency-aware Terraform for a cloud service.",
   "",
   "  --list                 Print the service catalog as YAML and exit",
   "  --provider, -p ID      Provider id (aws, gcp, azure)",
   "  --service, -s ID       Service id within the provider",
   "  --set NAME=VALUE       Field value as name=value (repeatable)",
   "  --values FILE          YAML file with field values",
   "  --out, -o DIRECTORY    Directory to write the generated files to",
   "  --ai                   Try AI generation first, falling back to templates",
   "  --prompt TEXT          Extra context for AI generation",
   "  --[no-]interactive     Prompt for missing values"]

/-- The session of a command line. -/
def command (always : Bool) (args : List String) : Session Unit := do
  let o ← ofExcept .usage (Options.parse args)
  if o.help then help.forM sayLine
  else if o.list then listCommand o
  else generateCommand always o

end CloudScaffold.Command
