import CloudScaffold.Catalog.View
import CloudScaffold.Generation
import CloudScaffold.Provision.Runner
import CloudScaffold.Server.Body
import CloudScaffold.Server.Route
/-!
# Handling requests

The server lists the catalog, generates files and provisions them. A look-up in vain is answered
with 404, a busy environment with 409, invalid values with 422, and a file that cannot be written
under its name with 400. Whatever else goes wrong is a failure of the server.

All requests share one runner, whose world is part of the server's state together with the questions
that the assistant was asked and the processes that were started.

The routes are TerraForge's `health`, `get_providers`, `get_services`, `get_service_detail`,
`post_generate` and `post_terraform`; `handleGenerate` and `handleTerraform` are the last two.
-/
namespace CloudScaffold.Server

open Provision (Action Job Operation Report RunError Runner World)

/-- What a request carries. -/
inductive Content where
  | none
  | json (v : Value)
  /-- A text that should be JSON. -/
  | text (s : String)

structure HttpRequest where
  method : String
  /-- The reference to its place. -/
  path : String
  content : Content := .none

inductive Response where
  | answered (status : Nat) (body : Value)
  /-- A status without a document. -/
  | bare (status : Nat)
  /-- A body that is not what the route asks for. -/
  | invalid (faults : List BodyFault)
  | failed

/-- What the server is made with. -/
structure Config where
  runner : Runner
  /-- The assistant's reply to a question, if it has one. -/
  reply : Question → Option String
  /-- Whether every generation asks the assistant. -/
  always : Bool := false

structure State where
  world : World
  questions : List Question := []
  jobs : List Job := []

abbrev Handler (α : Type) := StateM State α

/-- Asks the assistant. -/
def ask (c : Config) (q : Question) : Handler (Option String) := do
  modify fun s => { s with questions := s.questions ++ [q] }
  pure (c.reply q)

/-- Has the runner perform an action. -/
def act (c : Config) (a : Action) : Handler Provision.Answer := do
  let s ← get
  let d := c.runner.perform a s.world
  set { s with world := d.world, jobs := s.jobs ++ Provision.jobs d.moments }
  pure d.value

mutual
/-- Whether a document can be sent: its numbers are finite and its texts are made of characters. -/
def isSendable : Value → Bool
  | .float (.finite _ _ _) => true
  | .float _ | .other _ => false
  | .list xs => areSendable xs
  | .map kvs => entriesSendable kvs
  | _ => true

def areSendable : List Value → Bool
  | [] => true
  | x :: xs => isSendable x && areSendable xs

def entriesSendable : List (String × Value) → Bool
  | [] => true
  | (_, v) :: r => isSendable v && entriesSendable r
end

mutual
/-- How many groups of a document are inside each other. -/
def depth : Value → Nat
  | .list xs => depthOfItems xs + 1
  | .map kvs => depthOfEntries kvs + 1
  | _ => 0

def depthOfItems : List Value → Nat
  | [] => 0
  | x :: xs => max (depth x) (depthOfItems xs)

def depthOfEntries : List (String × Value) → Nat
  | [] => 0
  | (_, v) :: r => max (depth v) (depthOfEntries r)
end

/-- The depth up to which a document can be read. -/
def readingDepth : Nat := 950

/-- The depth up to which the value of a field can be told in an error. -/
def errorDepth : Nat := 494

/-- An answer, if its document can be sent. -/
def answer (status : Nat) (body : Value) : Response :=
  if isSendable body then .answered status body else .failed

/-- An answer that says what is wrong. -/
def refuse (status : Nat) (detail : Value) : Response := answer status (.map [("detail", detail)])

/-- An answer with the faults of a body, which tells their values too. -/
def refuseBody (faults : List BodyFault) : Response :=
  if faults.all fun f => isSendable f.value then .invalid faults else .failed

def refuseText (status : Nat) (detail : String) : Response := refuse status (.str detail)

/-- The answer for something that is looked up. -/
def answerLookup (r : Except LookupError Value) : Response :=
  match r with
  | .ok v => answer 200 v
  | .error e => refuseText 404 e.message

def healthView (c : Catalog) : Value :=
  .map [("status", .str "healthy"), ("providers", .list (c.providerIds.map .str))]

def providersView (c : Catalog) : Value :=
  .map [("providers", .list (c.map fun p => .map [("id", .str p.id), ("name", .str p.name),
    ("service_count", .int p.services.length)]))]

def servicesView (c : Catalog) (provider : String) : Except LookupError Value :=
  (c.services provider).map fun ss =>
    .map [("provider", .str provider), ("services", .list (ss.map (·.view)))]

def serviceView (c : Catalog) (provider id : String) : Except LookupError Value :=
  (c.service provider id).map (·.view)

/-- The answer to a generation. -/
def answerGeneration : Except GenerationError Generation → Response
  | .error (.lookup e) => refuseText 404 e.message
  | .error _ => .failed
  | .ok g =>
    if g.errors.isEmpty then
      answer 200 (.map [("source", .str g.origin.name),
        ("files", .map (g.files.map fun f => (f.1, .str f.2)))])
    else if g.errors.any fun e => errorDepth < depth e.value then .failed
    else refuse 422 (.map [("message", .str "Invalid field values"),
      ("errors", .list (g.errors.map (·.document)))])

def handleGenerate (c : Config) (b : GenerateBody) : Handler Response := do
  let r : Request :=
    { provider := b.provider, service := b.service, values := b.values
      prompt := b.prompt.getD "", useAssistant := b.useAssistant }
  pure (answerGeneration (← generate (ask c) c.always r))

def eventView (e : Provision.Event) : Value :=
  let part (f : Provision.StageResult → Value) : Value := (e.result.map f).getD .null
  .map [("stage", .str e.stage.name), ("status", .str e.status.name),
    ("exit_code", part fun r => .int r.exitCode), ("stdout", part fun r => .str r.stdout),
    ("stderr", part fun r => .str r.stderr)]

def reportView (r : Report) : Value :=
  .map [("ok", .bool r.ok), ("operation", .str r.operation.name),
    ("environment", .str r.environment), ("events", .list (r.events.map eventView))]

/-- The answer to an operation. -/
def answerRun : Provision.Answer → Response
  | .ok (.report r) => answer 200 (reportView r)
  | .error (.busy e) => refuseText 409 (RunError.busy e).message
  | .error (.file f@(.invalidName _)) | .error (.file f@.nulInName) => refuseText 400 f.message
  | _ => .failed

def handleTerraform (c : Config) (operation : String) (b : ProvisionBody) : Handler Response :=
  match Operation.ofName? operation with
  | none => pure (refuseText 404 s!"Unknown operation '{operation}'")
  | some op => do pure (answerRun (← act c (.operate op b.environment b.files .patient)))

/-- A text without the mark that may stand before it. -/
def withoutMark (s : String) : String :=
  match s.toList with
  | '\ufeff' :: r => .ofList r
  | _ => s

/-- The document in a request, if it has one; a response if it cannot be read. -/
def readContent : Content → Except Response (Option Value)
  | .none => .ok none
  | .json v => .ok (some v)
  | .text "" => .ok none
  | .text s => match Json.read readingDepth (withoutMark s) with
    | .ok v => .ok (some v)
    | .error .malformed => .error (.invalid (faultAt [] .notJson .null))
    | .error .numeralTooLong | .error .tooDeep =>
      .error (refuseText 400 "There was an error parsing the body")

/-- Handles a request whose content must be a body of a certain form. -/
def withBody {α : Type} (ofMembers : Attributes → Part α) (content : Content)
    (handle : α → Handler Response) : Handler Response :=
  match readContent content with
  | .error r => pure r
  | .ok v => match (bodyMembers v).bind ofMembers with
    | .error faults => pure (refuseBody faults)
    | .ok b => handle b

/-- Handles a request for a route. -/
def handleRoute (c : Config) (content : Content) : Route → Handler Response
  | .health => pure (answer 200 (healthView .shipped))
  | .providers => pure (answer 200 (providersView .shipped))
  | .services p => pure (answerLookup (servicesView .shipped p))
  | .service p s => pure (answerLookup (serviceView .shipped p s))
  | .generate => withBody GenerateBody.ofMembers content (handleGenerate c)
  | .terraform o => withBody ProvisionBody.ofMembers content (handleTerraform c o)
  | .guide => pure (.bare 200)

/-- A refusal of a method, which is not told to one that asks for no body. -/
def refuseMethod (method : String) (status : Nat) (detail : String) : Response :=
  if method = "HEAD" then .bare status else refuseText status detail

/-- Handles a request that has come to its place. Its method may be written in either case. -/
def handleAt (c : Config) (r : HttpRequest) (route? : Option Route) : Handler Response :=
  let method := r.method.toUpper
  match route? with
  | none => pure (refuseMethod method 404 "Not Found")
  | some route =>
    if route.methods.contains method then handleRoute c r.content route
    else pure (refuseMethod method 405 "Method Not Allowed")

/-- Handles a request. -/
def handle (c : Config) (r : HttpRequest) : ExceptT AddressFault Handler Response := do
  handleAt c r (← Route.ofReference r.path)

/-- Handles requests in turn, up to the first one that cannot be sent. -/
def handleAll (c : Config) (rs : List HttpRequest) : ExceptT AddressFault Handler (List Response) :=
  rs.mapM (handle c)

end CloudScaffold.Server
