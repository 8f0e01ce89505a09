import CloudScaffold.Value.Json
/-!
# Request bodies

A body is checked against the members that a route asks for, and every fault is listed with its
place. Texts must be texts; a yes or no may be a boolean, a zero or a one, or a word for it. Members
that no route asks for are ignored.

The bodies are TerraForge's `GenerateRequest` and `TerraformRequest`.
-/
namespace CloudScaffold.Server

open Number

/-- What is wrong with a part of a body. -/
inductive FaultKind where
  | missing
  | notText
  | notMapping
  | notObject
  /-- A value that could be a yes or no, but is none. -/
  | unknownBoolean
  | notBoolean
  /-- No JSON at all. -/
  | notJson
  deriving DecidableEq, Repr

def FaultKind.name : FaultKind → String
  | missing => "missing"
  | notText => "string_type"
  | notMapping => "dict_type"
  | notObject => "model_attributes_type"
  | unknownBoolean => "bool_parsing"
  | notBoolean => "bool_type"
  | notJson => "json_invalid"

/-- A fault and where it is. -/
structure BodyFault where
  path : List String
  kind : FaultKind
  /-- The value that is found there, or the one that lacks a member. -/
  value : Value

/-- A part of a body that was read, or its faults. -/
abbrev Part (α : Type) := Except (List BodyFault) α

/-- Two parts together; the faults of both are kept. -/
def Part.both {α β : Type} : Part α → Part β → Part (α × β)
  | .ok a, .ok b => .ok (a, b)
  | .error e, .ok _ => .error e
  | .ok _, .error e => .error e
  | .error e, .error f => .error (e ++ f)

/-- A fault at a place in the body. -/
def faultAt (path : List String) (kind : FaultKind) (value : Value) : List BodyFault :=
  [⟨"body" :: path, kind, value⟩]

/-- A text that must be there. -/
def requiredText (doc : Attributes) (k : String) : Part String :=
  match doc.get? k with
  | none => .error (faultAt [k] .missing (.map doc))
  | some (.str s) => .ok s
  | some v => .error (faultAt [k] .notText v)

/-- A text that may be missing or null. -/
def optionalTextMember (doc : Attributes) (k : String) : Part (Option String) :=
  match doc.get? k with
  | none | some .null => .ok none
  | some (.str s) => .ok (some s)
  | some v => .error (faultAt [k] .notText v)

/-- A mapping that may be missing. -/
def optionalMapping (doc : Attributes) (k : String) : Part Attributes :=
  match doc.get? k with
  | none => .ok []
  | some (.map kvs) => .ok kvs
  | some v => .error (faultAt [k] .notMapping v)

/-- Letters in lower case, of ASCII only. -/
def asciiLower (s : String) : String :=
  s.map fun c => if 'A' ≤ c && c ≤ 'Z' then .ofNat (c.toNat + 32) else c

/-- The truth value of a word. -/
def wordBool? (s : String) : Option Bool :=
  let w := asciiLower s
  if ["1", "t", "y", "on", "yes", "true"].contains w then some true
  else if ["0", "f", "n", "no", "off", "false"].contains w then some false
  else none

/-- The truth value of a number. -/
def numberBool? (n : Int) : Option Bool :=
  if n = 1 then some true else if n = 0 then some false else none

/-- The whole number that a decimal is equal to. -/
def wholeNumber? (x : Binary64) : Option Int :=
  match x.truncate with
  | .ok n => if Binary64.ofInt? n = some x || (n = 0 && x.isZero) then some n else none
  | .error _ => none

/-- Whether a number is in the range of signed words of 64 bits, in which it could be a truth
value. -/
def isWordSized (n : Int) : Bool := -9223372036854775808 ≤ n && n < 9223372036854775808

/-- A yes or no that may be missing, which is a no. -/
def optionalBool (doc : Attributes) (k : String) : Part Bool :=
  let readAs (v : Value) (b : Option Bool) : Part Bool := match b with
    | some b => .ok b
    | none => .error (faultAt [k] .unknownBoolean v)
  let readNumber (v : Value) (n : Option Int) : Part Bool := match n.filter isWordSized with
    | some n => readAs v (numberBool? n)
    | none => .error (faultAt [k] .notBoolean v)
  match doc.get? k with
  | none => .ok false
  | some (.bool b) => .ok b
  | some (.str s) => readAs (.str s) (wordBool? s)
  | some (.int n) => readNumber (.int n) (some n)
  | some (.float x) => readNumber (.float x) (wholeNumber? x)
  | some v => .error (faultAt [k] .notBoolean v)

/-- The texts of a mapping from names to texts, or the faults of its values. -/
def textEntries (k : String) : Attributes → Part (List (String × String))
  | [] => .ok []
  | (n, v) :: r =>
    let here : Part String := match v with
      | .str s => .ok s
      | _ => .error (faultAt [k, n] .notText v)
    (here.both (textEntries k r)).map fun p => (n, p.1) :: p.2

/-- A mapping from names to texts that must be there. -/
def requiredTexts (doc : Attributes) (k : String) : Part (List (String × String)) :=
  match doc.get? k with
  | none => .error (faultAt [k] .missing (.map doc))
  | some (.map kvs) => textEntries k kvs
  | some v => .error (faultAt [k] .notMapping v)

/-- The members of a body, which must be there and be an object. -/
def bodyMembers : Option Value → Part Attributes
  | none | some .null => .error (faultAt [] .missing .null)
  | some (.map kvs) => .ok kvs
  | some v => .error (faultAt [] .notObject v)

/-- The body of a request to generate files. -/
structure GenerateBody where
  provider : String
  service : String
  values : Attributes
  prompt : Option String
  useAssistant : Bool

def GenerateBody.ofMembers (doc : Attributes) : Part GenerateBody :=
  (((requiredText doc "provider").both (requiredText doc "service")).both
    ((optionalMapping doc "values").both
      ((optionalTextMember doc "prompt").both (optionalBool doc "use_ai")))).map
    fun ((provider, service), values, prompt, useAssistant) =>
      { provider := provider, service := service, values := values, prompt := prompt
        useAssistant := useAssistant }

/-- The body of a request to provision files. -/
structure ProvisionBody where
  environment : String
  files : List (String × String)

def ProvisionBody.ofMembers (doc : Attributes) : Part ProvisionBody :=
  ((requiredText doc "environment").both (requiredTexts doc "files")).map
    fun (environment, files) => { environment := environment, files := files }

end CloudScaffold.Server
