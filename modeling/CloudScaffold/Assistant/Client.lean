import CloudScaffold.Assistant.Prompt
import CloudScaffold.Settings
import CloudScaffold.Text.Blank
/-!
# Asking the assistant

The settings choose a client (`AssistantSettings.client`) and give a request; the answer to the
request is a list of blocks, of which those of text make up the reply (`ask`).

`ask` is TerraForge's `generate_terraform_text`, with the service that answers as a parameter, and
`client` its `_get_anthropic_client`.
-/
namespace CloudScaffold.Assistant

/-- The service that a request goes to. -/
inductive Client where
  | direct (apiKey : String)
  | cloud (project region : String)
  deriving DecidableEq, Repr

/-- Why there is no reply. -/
inductive AskError where
  | noProject
  | noApiKey
  | unknownBackend (name : String)
  /-- The service refused the request. -/
  | refused (text : String)
  | emptyReply
  /-- A block of text without its text. -/
  | missingText
  /-- A block of text that holds something else. -/
  | notText
  /-- A requirement without JSON text. -/
  | noPrompt
  /-- Anything else that goes wrong on the way. -/
  | failed
  deriving DecidableEq, Repr

def AskError.message : AskError → String
  | noProject => "ANTHROPIC_VERTEX_PROJECT_ID environment variable not set"
  | noApiKey => "ANTHROPIC_API_KEY environment variable not set"
  | unknownBackend b => s!"Unknown LLM backend '{b}'"
  | refused t => "Error calling Claude API: " ++ t
  | emptyReply => "Claude returned an empty response"
  | missingText => "A block of text has no text"
  | notText => "A block of text holds something else"
  | noPrompt => "A requirement has no JSON text"
  | failed => "The request failed"

/-- A setting that is there and not empty. -/
def required (s : Option String) (otherwise : AskError) : Except AskError String :=
  match s.bind nonEmpty? with
  | some t => .ok t
  | none => .error otherwise

/-- The client that the settings choose. -/
def client (s : AssistantSettings) : Except AskError Client :=
  if s.backend = "vertex" then do .ok (.cloud (← required s.project .noProject) s.region)
  else if s.backend = "anthropic" then do .ok (.direct (← required s.apiKey .noApiKey))
  else .error (.unknownBackend s.backend)

structure Request where
  model : String
  maxTokens : Int
  system : String
  content : String
  deriving DecidableEq, Repr

/-- The request for a prompt. -/
def request (s : AssistantSettings) (content : String) : Request where
  model := s.model
  maxTokens := s.maxTokens
  system := systemPrompt
  content := content

/-- A block of an answer. A block of text has a text. -/
structure Block where
  type : String := ""
  text : Option Value := none

/-- What comes back for a request. -/
inductive Response where
  | blocks (bs : List Block)
  | refused (text : String)
  | failed

/-- What a block of text holds. -/
def Block.content (b : Block) : Except AskError Value :=
  match b.text with
  | some v => .ok v
  | none => .error .missingText

/-- The text that a value is. -/
def textOf : Value → Except AskError String
  | .str s => .ok s
  | _ => .error .notText

/-- The texts of the text blocks, joined. -/
def joinTexts (bs : List Block) : Except AskError String := do
  let contents ← (bs.filter (·.type = "text")).mapM (·.content)
  .ok (String.join (← contents.mapM textOf))

/-- The reply that a response holds. -/
def Response.reply : Response → Except AskError String
  | blocks bs => do
    let t ← joinTexts bs
    if Text.allBlank t then .error .emptyReply else .ok t
  | refused t => .error (.refused t)
  | failed => .error .failed

/-- One attempt: the client and the request, as far as it got, and its result. -/
structure Attempt where
  client : Option Client := none
  request : Option Request := none
  result : Except AskError String

/-- Asks for the files of a service; `respond` stands for the service that answers. -/
def ask (s : AssistantSettings) (respond : Request → Response) (provider service : String)
    (requirements : Attributes) (addition : String) : Attempt :=
  match client s with
  | .error e => { result := .error e }
  | .ok c =>
    match prompt? provider service requirements addition with
    | none => { client := some c, result := .error .noPrompt }
    | some text =>
      let r := request s text
      { client := some c, request := some r, result := (respond r).reply }

end CloudScaffold.Assistant
