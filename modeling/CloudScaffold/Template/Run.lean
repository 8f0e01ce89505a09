import CloudScaffold.Contract.Basic
import CloudScaffold.Template.Draft
import CloudScaffold.Template.Term
import CloudScaffold.Value.Json
/-!
# Running templates

`Template.run` runs a template on a draft. A step can fail; the draft then keeps what was made
before, so the answer is a draft together with a fault, if there was one. Terms are evaluated in
order, those of a resource before it is added.

`Template.run` is a call of one of TerraForge's template functions on a `BuildContext`; `Draft.number`
is the `number` of that.
-/
namespace CloudScaffold

open Text Number

/-- Why a template fails. -/
inductive TemplateFault where
  /-- No resource of a kind that is referred to. -/
  | noKind (kind : String)
  /-- No resource under a handle; no template of this library asks for one. -/
  | noHandle (handle : String)
  /-- A table has no entry for a value, which is given in its literal form. -/
  | notInTable (value : String)
  /-- A value that cannot be looked up in a table. -/
  | unusableKey
  | number (cause : NumberError)
  /-- A value that is no number and no text. -/
  | notNumeric
  /-- A value that is no text. -/
  | notText
  /-- A value that has no JSON text. -/
  | noJson
  deriving DecidableEq, Repr

/-- The wording of a fault; look-ups in vain name the key. -/
def TemplateFault.message : TemplateFault → String
  | noKind k => literal k
  | noHandle h => literal h
  | notInTable v => v
  | unusableKey => "A list or a mapping cannot be looked up"
  | number e => e.message
  | notNumeric => "The value is neither a number nor a text"
  | notText => "The value is no text"
  | noJson => "The value has no JSON text"

/-- A step of a template: a result or a fault, and the draft in either case. -/
abbrev Drafting (α : Type) := ExceptT TemplateFault (StateM Draft) α

/-- The resources that a template has made, by handle. -/
abbrev Handles := List (String × Resource)

/-- The whole number in a value. -/
def numberOf : Value → Except TemplateFault Int
  | .str s | .raw s => (readInt s).mapError .number
  | .bool b => .ok (if b then 1 else 0)
  | .int n => .ok n
  | .float x => x.truncate.mapError .number
  | _ => .error .notNumeric

/-- The decimal number in a value. -/
def decimalOf : Value → Except TemplateFault Binary64
  | .str s | .raw s => (readDecimal s).mapError .number
  | .bool b => .ok (.ofDecimal false (if b then 1 else 0) 0)
  | .int n => match Binary64.ofInt? n with
    | some x => .ok x
    | none => .error (.number .tooLarge)
  | .float x => .ok x
  | _ => .error .notNumeric

namespace Draft

/-- The whole number in a field, or a default if nothing is given. -/
def number (d : Draft) (field : String) (default : Int) : Except TemplateFault Int :=
  let v := (d.values.get? field).getD .null
  if v.isAbsent then .ok default else numberOf v

def inboundRules (d : Draft) : Except TemplateFault (List InboundRule) :=
  match CloudScaffold.inboundRules? d.provider d.service.id d.values with
  | some rs => .ok rs
  | none => .error .unusableKey

/-- A reference to the resource of a kind. -/
def kindRef (d : Draft) (kind attr : String) : Except TemplateFault Reference :=
  match d.kind? kind with
  | some r => .ok (r.reference attr)
  | none => .error (.noKind kind)

end Draft

def NameStyle.apply (style : NameStyle) (s : String) : String :=
  let hyphens (p : Char → Bool) (t : String) : String :=
    .ofList (t.toList.map fun c => if p c then '-' else c)
  match style with
  | plain => s
  | lower => Text.lower s
  | dns => hyphens (· == '_') (Text.lower s)
  | hyphenated => hyphens (fun c => c == '_' || c == ' ') (Text.lower s)

/-- The letters and digits of a name, with a suffix, within a length. -/
def compactNameOf (limit : Nat) (suffix name : String) : String :=
  .ofList (((lowerChars name.toList).filter isSlugChar).take (limit - suffix.length)) ++ suffix

/-- Whether a condition holds; a look at a field declares nothing. -/
def Cond.holds (d : Draft) (hs : Handles) : Cond → Except TemplateFault Bool
  | always => .ok true
  | never => .ok false
  | flag f => .ok (d.flag f)
  | equals f t => .ok ((d.usable f .null).isText t)
  | given f => .ok (d.usable f .null).truthy
  | inbound => d.inboundRules.map (!·.isEmpty)
  | made h => .ok (hs.lookup h).isSome
  | kind k => .ok (d.kind? k).isSome
  | not c => (c.holds d hs).map (!·)

def InboundPart.value (r : InboundRule) (index : Nat) : InboundPart → Value
  | text s => .str s
  | name => .str r.name
  | port => .int r.port
  | portText => .str (showInt r.port)
  | cidr => .str r.cidr
  | cidrList => .list [.str r.cidr]
  | position first => .int ((first + index : Nat) : Int)

/-- The blocks of inbound rules. -/
def inboundBlocks (parts : List (String × InboundPart)) (rs : List InboundRule) : Value :=
  if rs.isEmpty then .null
  else .list (rs.zipIdx.map fun (r, i) => .block (parts.map fun p => (p.1, p.2.value r i)))

/-- Texts in order of code points, each once. -/
def sortedTexts (xs : List String) : List String := xs.eraseDups.mergeSort (· ≤ ·)

/-- Takes the value of a field. -/
def takeValue (field : String) : Drafting Value := do
  let d ← get
  let (v, d') := d.value field .null
  set d'
  pure v

namespace Term

mutual
/-- The value of a term. -/
def eval (hs : Handles) : Term → Drafting Value
  | .lit v => pure v
  | .field f => takeValue f
  | .fieldOr f g => do
    let v ← takeValue f
    if v.truthy then pure v else takeValue g
  | .number f n => do
    let m ← (← get).number f n
    pure (.int m)
  | .decimal f => do
    let x ← decimalOf (← takeValue f)
    pure (.float x)
  | .flag f => do pure (.bool ((← get).flag f))
  | .ending f g e => do
    let v ← takeValue f
    if !(← get).flag g then pure v
    else match v with
      | .str s => pure (.str (if e.toList.isSuffixOf s.toList then s else s ++ e))
      | _ => throw .notText
  | .label style suffix => do pure (.str (style.apply ((← get).label suffix)))
  | .compactName limit suffix => do
    pure (.str (compactNameOf limit suffix (← get).displayName))
  | .described lead => do pure (.str (lead ++ (← get).displayName))
  | .tags suffix => do pure (.map ((← get).tags suffix))
  | .kind k a => do
    let r ← (← get).kindRef k a
    pure (.ref r)
  | .made h a => match hs.lookup h with
    | some r => pure (.ref (r.reference a))
    | none => throw (.noHandle h)
  | .lookup f table dflt => do
    let v ← takeValue f
    if !v.isKey then throw .unusableKey
    match v with
      | .str s => evalEntry hs s (evalFirst hs v dflt) table
      | _ => evalFirst hs v dflt
  | .ite c t e => do
    if ← c.holds (← get) hs then t.eval hs else e.eval hs
  | .list ts => do pure (.list (← evalAll hs ts))
  | .map kvs => do pure (.map (← evalEntries hs kvs))
  | .block kvs => do pure (.block (← evalEntries hs kvs))
  | .interp ts => do pure (.interp (← evalAll hs ts))
  | .json t => do
    match (← t.eval hs).toJson? .line 0 with
      | some s => pure (.str s)
      | none => throw .noJson
  | .inboundBlocks parts => do pure (CloudScaffold.inboundBlocks parts (← (← get).inboundRules))
  | .inboundPorts => do
    let rs ← (← get).inboundRules
    pure (.list (rs.map fun r => .str (showInt r.port)))
  | .inboundSources => do
    let rs ← (← get).inboundRules
    pure (if rs.isEmpty then .null else .list ((sortedTexts (rs.map (·.cidr))).map .str))

def evalAll (hs : Handles) : List Term → Drafting (List Value)
  | [] => pure []
  | t :: ts => do
    let v ← t.eval hs
    let vs ← evalAll hs ts
    pure (v :: vs)

def evalEntries (hs : Handles) : List (String × Term) → Drafting Attributes
  | [] => pure []
  | (k, t) :: r => do
    let v ← t.eval hs
    let vs ← evalEntries hs r
    pure ((k, v) :: vs)

/-- The entry of a table for a text, or what stands in for it. -/
def evalEntry (hs : Handles) (key : String) (otherwise : Drafting Value) :
    List (String × Term) → Drafting Value
  | [] => otherwise
  | (k, t) :: r => if k = key then t.eval hs else evalEntry hs key otherwise r

/-- The default of a table, or the fault that a value is not in it. -/
def evalFirst (hs : Handles) (v : Value) : List Term → Drafting Value
  | [] => throw (.notInTable v.literal)
  | t :: _ => t.eval hs
end

end Term

/-- Makes a resource. -/
def Addition.run (a : Addition) (hs : Handles) : Drafting Handles := do
  let attrs ← Term.evalEntries hs a.attrs
  let d ← get
  let m : Draft.Making :=
    { type := a.type, attributes := attrs, role := a.role
      mode := if a.data then "data" else "resource", kind := a.kind
      graphRole := if a.dependency then "dependency" else "" }
  set (d.add m)
  pure (if a.handle = "" then hs else (a.handle, d.made m) :: hs)

def Exposure.run (o : Exposure) (hs : Handles) : Drafting Unit := do
  let v ← o.value.eval hs
  modify fun d => d.output ⟨o.name, v, o.description, o.sensitive⟩

/-- Runs a step: the handles after it. -/
def Step.run (hs : Handles) : Step → Drafting Handles
  | touch t => do
    let _ ← t.eval hs
    pure hs
  | add a => do if ← a.onlyIf.holds (← get) hs then a.run hs else pure hs
  | output o => do
    if ← o.onlyIf.holds (← get) hs then o.run hs
    pure hs

def runSteps (hs : Handles) : List Step → Drafting Unit
  | [] => pure ()
  | s :: ss => do
    let hs ← s.run hs
    runSteps hs ss

/-- Runs a template on a draft. -/
def Template.run (t : Template) : Drafting Unit := runSteps [] t

end CloudScaffold
