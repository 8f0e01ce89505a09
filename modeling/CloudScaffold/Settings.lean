import CloudScaffold.Number.Numeral
import CloudScaffold.Text.Case
import CloudScaffold.Text.Parts
/-!
# Settings

Settings come from the environment: of the assistant that writes files, of the runner that
provisions them, and of the server. A name that is not set takes its default; a number that cannot
be read is the only fault.

They are TerraForge's `LLM_CONFIG`, `RUNNER_CONFIG` and `API_CONFIG`, and `Environment.flag` is its
`_env_bool`.
-/
namespace CloudScaffold

open Text Number

/-- The variables of an environment. -/
abbrev Environment := List (String × String)

namespace Environment

def get? (e : Environment) (name : String) : Option String := e.lookup name

/-- The variables that settings are read from. -/
def names : List String :=
  ["TERRAFORGE_AI_ENABLED", "TERRAFORGE_LLM_BACKEND", "ANTHROPIC_API_KEY", "TERRAFORGE_MODEL",
   "TERRAFORGE_MAX_TOKENS", "ANTHROPIC_VERTEX_PROJECT_ID", "CLOUD_ML_REGION",
   "TERRAFORGE_TERRAFORM_BIN", "TERRAFORGE_STAGE_TIMEOUT", "TERRAFORGE_SPAWN_RETRIES",
   "TERRAFORGE_WORKDIR_ROOT", "TERRAFORGE_CORS_ORIGINS", "TERRAFORGE_LOG_LEVEL",
   "TERRAFORGE_HOST", "TERRAFORGE_PORT"]

/-- The text of a variable, or a default. -/
def text (e : Environment) (name default : String) : String := (e.get? name).getD default

/-- The whole number in a variable, or a default. -/
def number (e : Environment) (name : String) (default : Int) : Except NumberError Int :=
  match e.get? name with
  | some s => readInt s
  | none => .ok default

/-- Whether a variable says yes. -/
def flag (e : Environment) (name : String) : Bool :=
  ["1", "true", "yes", "on"].contains (lower (trim (e.text name "false")))

end Environment

/-- What the assistant is reached with. -/
structure AssistantSettings where
  /-- Whether every generation asks the assistant first. -/
  enabled : Bool := false
  backend : String := "anthropic"
  apiKey : Option String := none
  model : String := "claude-sonnet-4-5"
  maxTokens : Int := 4000
  project : Option String := none
  region : String := "us-east5"
  deriving DecidableEq, Repr

/-- How stages are run. -/
structure RunnerSettings where
  binary : String := "terraform"
  /-- Seconds. -/
  timeout : Int := 900
  retries : Int := 2
  /-- Where work directories are made. -/
  root : Option String := none
  deriving DecidableEq, Repr

structure ServerSettings where
  origins : List String := ["*"]
  logLevel : String := "INFO"
  host : String := "127.0.0.1"
  port : Int := 8000
  deriving DecidableEq, Repr

structure Settings where
  assistant : AssistantSettings := {}
  runner : RunnerSettings := {}
  server : ServerSettings := {}
  deriving DecidableEq, Repr

/-- The items of a comma-separated text: trimmed, without the empty ones. -/
def commaItems (s : String) : List String :=
  ((partsAt ',' s.toList).map fun p => String.ofList (trimChars p)).filter (· != "")

/-- A text that is given only if it is not empty. -/
def nonEmpty? (s : String) : Option String := if s = "" then none else some s

def AssistantSettings.ofEnvironment (e : Environment) : Except NumberError AssistantSettings := do
  .ok {
    enabled := e.flag "TERRAFORGE_AI_ENABLED"
    backend := e.text "TERRAFORGE_LLM_BACKEND" "anthropic"
    apiKey := e.get? "ANTHROPIC_API_KEY"
    model := e.text "TERRAFORGE_MODEL" "claude-sonnet-4-5"
    maxTokens := ← e.number "TERRAFORGE_MAX_TOKENS" 4000
    project := e.get? "ANTHROPIC_VERTEX_PROJECT_ID"
    region := e.text "CLOUD_ML_REGION" "us-east5" }

def RunnerSettings.ofEnvironment (e : Environment) : Except NumberError RunnerSettings := do
  let timeout ← e.number "TERRAFORGE_STAGE_TIMEOUT" 900
  let retries ← e.number "TERRAFORGE_SPAWN_RETRIES" 2
  .ok {
    binary := e.text "TERRAFORGE_TERRAFORM_BIN" "terraform"
    timeout := timeout
    retries := max 0 retries
    root := (e.get? "TERRAFORGE_WORKDIR_ROOT").bind nonEmpty? }

def ServerSettings.ofEnvironment (e : Environment) : Except NumberError ServerSettings := do
  .ok {
    origins := commaItems (e.text "TERRAFORGE_CORS_ORIGINS" "*")
    logLevel := upper (e.text "TERRAFORGE_LOG_LEVEL" "INFO")
    host := e.text "TERRAFORGE_HOST" "127.0.0.1"
    port := ← e.number "TERRAFORGE_PORT" 8000 }

/-- The settings of an environment; of several faults the first is reported. -/
def Settings.ofEnvironment (e : Environment) : Except NumberError Settings := do
  let assistant ← AssistantSettings.ofEnvironment e
  let runner ← RunnerSettings.ofEnvironment e
  let server ← ServerSettings.ofEnvironment e
  .ok { assistant := assistant, runner := runner, server := server }

end CloudScaffold
