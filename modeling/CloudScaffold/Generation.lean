import CloudScaffold.Assistant.Reply
import CloudScaffold.Catalog.Validation
import CloudScaffold.Graph.Build
import CloudScaffold.Hcl.Files
/-!
# Generation

`generate` answers a request for the files of a service. Invalid values end it with their errors.
Otherwise the assistant is asked once, if the request or the settings say so, and a reply that holds
files is the answer; in every other case the files come from the templates.

Only the values of fields that are not sensitive are shown to the assistant.

`generate` is TerraForge's `GenerationEngine.generate`, and the branch that asks the assistant its
`_try_ai`.
-/
namespace CloudScaffold

/-- A request for the files of a service. -/
structure Request where
  provider : String
  service : String
  values : Attributes
  /-- What the user adds for the assistant. -/
  prompt : String := ""
  useAssistant : Bool := false

/-- What the assistant is asked. -/
structure Question where
  provider : String
  service : String
  requirements : Attributes
  prompt : String

/-- Where files come from. -/
inductive Origin where
  | template
  | assistant
  deriving DecidableEq, Repr

def Origin.name : Origin → String
  | template => "template"
  | assistant => "ai"

/-- The answer to a request: files, or the errors that prevent them. -/
structure Generation where
  files : List (String × String) := []
  errors : List FieldError := []
  origin : Origin := .template
  /-- What template files were written from. -/
  graph : Option Graph := none

/-- A request without an answer. -/
inductive GenerationError where
  | lookup (cause : LookupError)
  | build (cause : BuildError)
  | files (cause : Hcl.FilesError)
  deriving DecidableEq, Repr

def GenerationError.message : GenerationError → String
  | lookup e => e.message
  | build e => e.message
  | files e => e.message

/-- The question for a service and accepted values. -/
def question (r : Request) (s : Service) (values : Attributes) : Question where
  provider := r.provider
  service := s.name
  requirements := values.filter fun kv => !s.isSensitive kv.1
  prompt := r.prompt

/-- What an assistant does when it is asked. -/
inductive Behaviour where
  /-- It returns something, which need not be a text. -/
  | returned (v : Value)
  | raised (text : String)

/-- The reply to read: only a text can be read, and nothing is left of an exception. An expression
(`Value.raw`), which no assistant returns, is no text here. -/
def Behaviour.reply? : Behaviour → Option String
  | returned (.str text) => some text
  | _ => none

/-- The files of a reply, which may be missing. -/
def filesOfReply? (reply : Option String) : Option (List (String × String)) :=
  reply.bind fun text => (Assistant.parseFiles text).toOption

/-- The files that the templates give for accepted values. -/
def generateFromTemplates (provider : String) (s : Service) (values : Attributes) :
    Except GenerationError Generation := do
  let g ← (buildGraph provider s values).mapError .build
  let files ← (Hcl.projectFiles g).mapError .files
  .ok { files := files, graph := some g }

variable {m : Type → Type} [Monad m]

/-- Answers a request. `ask` is the assistant, whose reply may be missing; `always` says that every
request asks it. -/
def generate (ask : Question → m (Option String)) (always : Bool) (r : Request) :
    m (Except GenerationError Generation) :=
  match Catalog.shipped.service r.provider r.service with
  | .error e => pure (.error (.lookup e))
  | .ok s =>
    match s.validated r.values with
    | .error errors => pure (.ok { errors := errors })
    | .ok values =>
      if r.useAssistant || always then do
        match filesOfReply? (← ask (question r s values)) with
        | some files => pure (.ok { files := files, origin := .assistant })
        | none => pure (generateFromTemplates r.provider s values)
      else pure (generateFromTemplates r.provider s values)

end CloudScaffold
