import CloudScaffold.Text.Parts
/-!
# Options of the command line

Arguments are read from the left. A long option may carry its value behind an equals sign, a short
one right behind its letter; any other value is the next argument, whatever it looks like. Of
options that come twice the last counts, except for assignments, which add up. Two hyphens alone end
the options. The command takes no argument that is not an option.

The options are those of TerraForge's `run`.
-/
namespace CloudScaffold.Command

/-- What the command line asks for. -/
structure Options where
  help : Bool := false
  /-- Print the catalog. -/
  list : Bool := false
  provider : Option String := none
  service : Option String := none
  /-- Assignments `name=value`, in order. -/
  assignments : List String := []
  valuesFile : Option String := none
  /-- The directory that files are written to. -/
  out : Option String := none
  useAssistant : Bool := false
  prompt : Option String := none
  interactive : Bool := true
  deriving DecidableEq, Repr

/-- Why a command line cannot be read. -/
inductive UsageError where
  | unknownOption (name : String)
  | missingValue (name : String)
  /-- A value for an option that takes none. -/
  | needlessValue (name : String)
  | extraArgument (text : String)
  /-- A path with a NUL in it. -/
  | nulInPath
  deriving DecidableEq, Repr

def UsageError.message : UsageError → String
  | unknownOption n => s!"No such option: {n}"
  | missingValue n => s!"Option '{n}' requires an argument"
  | needlessValue n => s!"Option '{n}' does not take a value"
  | extraArgument t => s!"Got unexpected extra argument ({t})"
  | nulInPath => "embedded null byte"

abbrev Setter := String → Options → Options

/-- What an option does. -/
inductive Effect where
  | flag (set : Options → Options)
  | value (set : Setter)

def setProvider : Setter := fun v o => { o with provider := some v }

def setService : Setter := fun v o => { o with service := some v }

def setOut : Setter := fun v o => { o with out := some v }

def longOptions : List (String × Effect) :=
  [("--list", .flag fun o => { o with list := true }),
   ("--provider", .value setProvider),
   ("--service", .value setService),
   ("--set", .value fun v o => { o with assignments := o.assignments ++ [v] }),
   ("--values", .value fun v o => { o with valuesFile := some v }),
   ("--out", .value setOut),
   ("--ai", .flag fun o => { o with useAssistant := true }),
   ("--prompt", .value fun v o => { o with prompt := some v }),
   ("--interactive", .flag fun o => { o with interactive := true }),
   ("--no-interactive", .flag fun o => { o with interactive := false }),
   ("--help", .flag fun o => { o with help := true })]

/-- The short options, which all take a value. -/
def shortOptions : List (Char × Setter) :=
  [('p', setProvider), ('s', setService), ('o', setOut)]

/-- What a single argument says. -/
inductive Argument where
  | positional
  | change (set : Options → Options)
  /-- An option whose value is the next argument. -/
  | wanting (name : String) (set : Setter)
  | wrong (cause : UsageError)

/-- A short option with its letter. -/
def readShort (c : Char) (rest : List Char) : Argument :=
  let name := String.ofList ['-', c]
  match shortOptions.lookup c with
  | none => .wrong (.unknownOption name)
  | some set => if rest.isEmpty then .wanting name set else .change (set (.ofList rest))

/-- Reads an argument on its own. -/
def readArgument (arg : String) : Argument :=
  match arg.toList with
  | '-' :: c :: rest =>
    let (name, value) := match Text.cutAt? '=' arg.toList with
      | some (n, v) => (String.ofList n, some v)
      | none => (arg, none)
    match longOptions.lookup name, value with
    | some (.flag set), none => .change set
    | some (.flag _), some _ => .wrong (.needlessValue name)
    | some (.value set), none => .wanting name set
    | some (.value set), some v => .change (set (.ofList v))
    | none, _ => if c = '-' then .wrong (.unknownOption name) else readShort c rest
  | _ => .positional

/-- Reads arguments into options, and lists those that are no options. -/
def readArguments (o : Options) : List String → Except UsageError (Options × List String)
  | [] => .ok (o, [])
  | "--" :: rest => .ok (o, rest)
  | arg :: rest =>
    match readArgument arg with
    | .wrong e => .error e
    | .change set => readArguments (set o) rest
    | .positional => (readArguments o rest).map fun r => (r.1, arg :: r.2)
    | .wanting name set =>
      match rest with
      | [] => .error (.missingValue name)
      | v :: rest => readArguments (set v o) rest

/-- The paths among options. -/
def Options.paths (o : Options) : List String := o.valuesFile.toList ++ o.out.toList

/-- The options of a command line. Whoever asks for help gets it whatever the other options are. -/
def Options.parse (args : List String) : Except UsageError Options := do
  let (o, extra) ← readArguments {} args
  if o.help then .ok o
  else if o.paths.any fun p => p.toList.contains '\x00' then .error .nulInPath
  else match extra with
    | [] => .ok o
    | text :: _ => .error (.extraArgument text)

end CloudScaffold.Command
