import CloudScaffold.Template.Run
/-!
# What evaluating a term does

Evaluation is a computation with state, but the state it needs is small: a term reads what a draft
was started with and the resources of its kinds (`Draft.view`), and all that it changes is that it
takes the values of some fields, which declares the variables of the sensitive ones. So it splits
into two plain functions, the value of a term (`Term.value`) and the fields whose values it takes
(`Term.takes`), and `eval_on` says that the split is exact, faults included.

What holds of whole runs is then shown by induction on the steps with no state inside a term.
-/
namespace CloudScaffold

open Text Number

variable {α β : Type}

/-! ## Computations on a draft -/

/-- The result of a computation on a draft, and the draft after it. -/
def Drafting.on (x : Drafting α) (d : Draft) : Except TemplateFault α × Draft := x d

namespace Drafting

@[simp] theorem on_pure (a : α) (d : Draft) : (pure a : Drafting α).on d = (.ok a, d) := rfl

@[simp] theorem on_throw (e : TemplateFault) (d : Draft) :
    (throw e : Drafting α).on d = (.error e, d) := rfl

@[simp] theorem on_get (d : Draft) : (get : Drafting Draft).on d = (.ok d, d) := rfl

@[simp] theorem on_set (d' d : Draft) : (set d' : Drafting PUnit).on d = (.ok ⟨⟩, d') := rfl

@[simp] theorem on_modify (f : Draft → Draft) (d : Draft) :
    (modify f : Drafting PUnit).on d = (.ok ⟨⟩, f d) := rfl

@[simp] theorem on_lift (e : Except TemplateFault α) (d : Draft) :
    (liftM e : Drafting α).on d = (e, d) := rfl

theorem on_bind (x : Drafting α) (f : α → Drafting β) (d : Draft) :
    (x >>= f).on d = match x.on d with
      | (.ok a, d') => (f a).on d'
      | (.error e, d') => (.error e, d') := by
  unfold Drafting.on
  simp only [bind, ExceptT.bind, ExceptT.mk, StateT.bind, ExceptT.bindCont]
  cases x d with
  | mk r d' => cases r <;> rfl

end Drafting

/-! ## What a term sees, and what it changes -/

namespace Draft

/-- What a draft was started from. -/
def origin (d : Draft) : Draft where
  provider := d.provider
  service := d.service
  values := d.values

/-- What terms see of a draft: not what has been made so far. -/
def view (d : Draft) : Draft := { d with phase := "", resources := [], inputs := [], outputs := [] }

/-- The variables after the value of a field was taken. -/
def takeInput (d : Draft) (vs : List Variable) (field : String) : List Variable :=
  let v := d.given field .null
  if d.isSecret field v && !vs.any (·.name == field) then vs ++ [d.secret field v] else vs

/-- A draft after the values of fields were taken in turn. -/
def takeAll (d : Draft) (fields : List String) : Draft :=
  { d with inputs := fields.foldl d.takeInput d.inputs }

@[simp] theorem view_takeAll (d : Draft) (fs : List String) : (d.takeAll fs).view = d.view := rfl

@[simp] theorem view_view (d : Draft) : d.view.view = d.view := rfl

@[simp] theorem takeAll_nil (d : Draft) : d.takeAll [] = d := rfl

@[simp] theorem takeAll_takeAll (d : Draft) (fs gs : List String) :
    (d.takeAll fs).takeAll gs = d.takeAll (fs ++ gs) := by
  simp only [takeAll, List.foldl_append]
  rfl

theorem value_eq (d : Draft) (f : String) :
    d.value f .null = (d.usable f .null, d.takeAll [f]) := by
  simp only [Draft.value, takeAll, takeInput, List.foldl_cons, List.foldl_nil, Prod.mk.injEq, true_and]
  by_cases hs : d.isSecret f (d.given f .null) <;>
    by_cases hd : d.inputs.any (·.name == f) <;> simp [hs, hd, declare, secret]

end Draft

@[simp] theorem takeValue_on (d : Draft) (f : String) :
    (takeValue f).on d = (.ok (d.usable f .null), d.takeAll [f]) := by
  simp only [takeValue, Drafting.on_bind, Drafting.on_get, Draft.value_eq, Drafting.on_set,
    Drafting.on_pure]

theorem Cond.holds_view (d : Draft) (hs : Handles) : ∀ c : Cond, c.holds d.view hs = c.holds d hs
  | .always | .never | .flag _ | .equals _ _ | .given _ | .inbound | .made _ | .kind _ => rfl
  | .not c => by simp only [Cond.holds, Cond.holds_view d hs c]

/-! ## Terms as functions -/

namespace Term

/-- The text of a value; with an ending that it may have already. -/
def withEnding (e : String) : Value → Except TemplateFault Value
  | .str s => .ok (.str (if e.toList.isSuffixOf s.toList then s else s ++ e))
  | _ => .error .notText

/-- The JSON text of a value, as a value. -/
def jsonText (v : Value) : Except TemplateFault Value :=
  match v.toJson? .line 0 with
  | some s => .ok (.str s)
  | none => .error .noJson

mutual
/-- The value of a term for what it sees of a draft. -/
def value (d : Draft) (hs : Handles) : Term → Except TemplateFault Value
  | .lit v => .ok v
  | .field f => .ok (d.usable f .null)
  | .fieldOr f g =>
    .ok (if (d.usable f .null).truthy then d.usable f .null else d.usable g .null)
  | .number f n => (d.number f n).map .int
  | .decimal f => (decimalOf (d.usable f .null)).map .float
  | .flag f => .ok (.bool (d.flag f))
  | .ending f g e => if d.flag g then withEnding e (d.usable f .null) else .ok (d.usable f .null)
  | .label style suffix => .ok (.str (style.apply (d.label suffix)))
  | .compactName limit suffix => .ok (.str (compactNameOf limit suffix d.displayName))
  | .described lead => .ok (.str (lead ++ d.displayName))
  | .tags suffix => .ok (.map (d.tags suffix))
  | .kind k a => (d.kindRef k a).map .ref
  | .made h a => match hs.lookup h with
    | some r => .ok (.ref (r.reference a))
    | none => .error (.noHandle h)
  | .lookup f table dflt =>
    let v := d.usable f .null
    if v.isKey then
      match v with
      | .str s => valueEntry d hs s (valueFirst d hs v dflt) table
      | _ => valueFirst d hs v dflt
    else .error .unusableKey
  | .ite c t e => do if ← c.holds d hs then t.value d hs else e.value d hs
  | .list ts => (valueAll d hs ts).map .list
  | .map kvs => (valueEntries d hs kvs).map .map
  | .block kvs => (valueEntries d hs kvs).map .block
  | .interp ts => (valueAll d hs ts).map .interp
  | .json t => do jsonText (← t.value d hs)
  | .inboundBlocks parts => d.inboundRules.map (CloudScaffold.inboundBlocks parts)
  | .inboundPorts => d.inboundRules.map fun rs => .list (rs.map fun r => .str (showInt r.port))
  | .inboundSources => d.inboundRules.map fun rs =>
    if rs.isEmpty then .null else .list ((sortedTexts (rs.map (·.cidr))).map .str)

def valueAll (d : Draft) (hs : Handles) : List Term → Except TemplateFault (List Value)
  | [] => .ok []
  | t :: ts => do
    let v ← t.value d hs
    let vs ← valueAll d hs ts
    .ok (v :: vs)

def valueEntries (d : Draft) (hs : Handles) :
    List (String × Term) → Except TemplateFault Attributes
  | [] => .ok []
  | (k, t) :: r => do
    let v ← t.value d hs
    let vs ← valueEntries d hs r
    .ok ((k, v) :: vs)

def valueEntry (d : Draft) (hs : Handles) (key : String) (otherwise : Except TemplateFault Value) :
    List (String × Term) → Except TemplateFault Value
  | [] => otherwise
  | (k, t) :: r => if k = key then t.value d hs else valueEntry d hs key otherwise r

def valueFirst (d : Draft) (hs : Handles) (v : Value) : List Term → Except TemplateFault Value
  | [] => .error (.notInTable v.literal)
  | t :: _ => t.value d hs
end

mutual
/-- The fields whose values a term takes, in order; those up to the fault if there is one. -/
def takes (d : Draft) (hs : Handles) : Term → List String
  | .field f | .decimal f | .ending f _ _ => [f]
  | .fieldOr f g => if (d.usable f .null).truthy then [f] else [f, g]
  | .lookup f table dflt =>
    let v := d.usable f .null
    f :: if v.isKey then
      match v with
      | .str s => takesEntry d hs s (takesFirst d hs dflt) table
      | _ => takesFirst d hs dflt
    else []
  | .ite c t e => match c.holds d hs with
    | .ok true => t.takes d hs
    | .ok false => e.takes d hs
    | .error _ => []
  | .list ts | .interp ts => takesAll d hs ts
  | .map kvs | .block kvs => takesEntries d hs kvs
  | .json t => t.takes d hs
  | _ => []

def takesAll (d : Draft) (hs : Handles) : List Term → List String
  | [] => []
  | t :: ts => t.takes d hs ++ if (t.value d hs).isOk then takesAll d hs ts else []

def takesEntries (d : Draft) (hs : Handles) : List (String × Term) → List String
  | [] => []
  | (_, t) :: r => t.takes d hs ++ if (t.value d hs).isOk then takesEntries d hs r else []

def takesEntry (d : Draft) (hs : Handles) (key : String) (otherwise : List String) :
    List (String × Term) → List String
  | [] => otherwise
  | (k, t) :: r => if k = key then t.takes d hs else takesEntry d hs key otherwise r

def takesFirst (d : Draft) (hs : Handles) : List Term → List String
  | [] => []
  | t :: _ => t.takes d hs
end

open Drafting

/-! ## Evaluation is value and takes

One case a constructor; between two terms the draft has changed by what the first one took, which
the second one does not see. -/

mutual
/-- **Evaluation splits**: a term has the value that it has for the view of the draft, and the draft
has changed by the fields that it takes. -/
theorem eval_on (hs : Handles) : ∀ (t : Term) (d : Draft),
    (t.eval hs).on d = (t.value d.view hs, d.takeAll (t.takes d.view hs))
  | .lit v, _ => rfl
  | .field f, d => takeValue_on d f
  | .fieldOr f g, d => by
    have hu : d.view.usable = d.usable := rfl
    simp only [eval, on_bind, takeValue_on, value, takes, hu]
    by_cases h : (d.usable f .null).truthy
    · simp [h]
    · simp only [h, Bool.false_eq_true, if_false, takeValue_on, Draft.takeAll_takeAll]
      rfl
  | .number f n, d => by
    have hn : d.view.number f n = d.number f n := rfl
    simp only [eval, on_bind, on_get, on_lift, value, takes, hn, Draft.takeAll_nil]
    cases d.number f n <;> rfl
  | .decimal f, d => by
    have hu : d.view.usable f .null = d.usable f .null := rfl
    simp only [eval, on_bind, takeValue_on, on_lift, value, takes, hu]
    cases decimalOf (d.usable f .null) <;> rfl
  | .flag f, d => rfl
  | .ending f g e, d => by
    have hu : d.view.usable f .null = d.usable f .null := rfl
    have hg : (d.takeAll [f]).flag g = d.view.flag g := rfl
    simp only [eval, on_bind, takeValue_on, on_get, value, takes, hu, hg]
    by_cases h : d.view.flag g
    · simp only [h, Bool.not_true, Bool.false_eq_true, if_false, if_true]
      cases d.usable f .null <;> rfl
    · simp only [h, Bool.not_false, Bool.false_eq_true, if_false, if_true, on_pure]
  | .label style suffix, d => rfl
  | .compactName limit suffix, d => rfl
  | .described lead, d => rfl
  | .tags suffix, d => rfl
  | .kind k a, d => by
    have hk : d.view.kindRef k a = d.kindRef k a := rfl
    simp only [eval, on_bind, on_get, on_lift, value, takes, hk, Draft.takeAll_nil]
    cases d.kindRef k a <;> rfl
  | .made h a, d => by
    simp only [eval, value, takes]
    cases hs.lookup h <;> rfl
  | .lookup f table dflt, d => by
    have hu : d.view.usable f .null = d.usable f .null := rfl
    have hfirst := evalFirst_on hs (d.usable f .null) dflt (d.takeAll [f])
    simp only [eval, on_bind, takeValue_on, value, takes, hu]
    by_cases hk : (d.usable f .null).isKey
    · simp only [hk, Bool.not_true, Bool.false_eq_true, if_false, if_true]
      rw [← List.singleton_append, ← Draft.takeAll_takeAll]
      cases hv : d.usable f .null with
      | str s => rw [hv] at hfirst; exact evalEntry_on hs s hfirst table
      | _ => rw [hv] at hfirst; exact hfirst
    · simp only [hk, Bool.not_false, Bool.false_eq_true, if_false, if_true]
      rfl
  | .ite c t e, d => by
    simp only [eval, on_bind, on_get, on_lift, value, takes, Cond.holds_view]
    rcases c.holds d hs with _ | _ | _
    · rfl
    · exact eval_on hs e d
    · exact eval_on hs t d
  | .list ts, d => by
    simp only [eval, on_bind, evalAll_on hs ts d, value, takes]
    cases valueAll d.view hs ts <;> rfl
  | .map kvs, d => by
    simp only [eval, on_bind, evalEntries_on hs kvs d, value, takes]
    cases valueEntries d.view hs kvs <;> rfl
  | .block kvs, d => by
    simp only [eval, on_bind, evalEntries_on hs kvs d, value, takes]
    cases valueEntries d.view hs kvs <;> rfl
  | .interp ts, d => by
    simp only [eval, on_bind, evalAll_on hs ts d, value, takes]
    cases valueAll d.view hs ts <;> rfl
  | .json t, d => by
    simp only [eval, on_bind, eval_on hs t d, value, takes]
    cases t.value d.view hs with
    | error e => rfl
    | ok v => simp only [bind, Except.bind, jsonText]; cases v.toJson? .line 0 <;> rfl
  | .inboundBlocks parts, d => by
    have hr : d.view.inboundRules = d.inboundRules := rfl
    simp only [eval, on_bind, on_get, on_lift, value, takes, hr, Draft.takeAll_nil]
    cases d.inboundRules <;> rfl
  | .inboundPorts, d => by
    have hr : d.view.inboundRules = d.inboundRules := rfl
    simp only [eval, on_bind, on_get, on_lift, value, takes, hr, Draft.takeAll_nil]
    cases d.inboundRules <;> rfl
  | .inboundSources, d => by
    have hr : d.view.inboundRules = d.inboundRules := rfl
    simp only [eval, on_bind, on_get, on_lift, value, takes, hr, Draft.takeAll_nil]
    cases d.inboundRules <;> rfl

theorem evalAll_on (hs : Handles) : ∀ (ts : List Term) (d : Draft),
    (evalAll hs ts).on d = (valueAll d.view hs ts, d.takeAll (takesAll d.view hs ts))
  | [], d => rfl
  | t :: ts, d => by
    simp only [evalAll, on_bind, eval_on hs t d, valueAll, takesAll]
    cases t.value d.view hs with
    | error e => simp [Except.isOk, Except.toBool, bind, Except.bind]
    | ok v =>
      simp only [Except.isOk, Except.toBool, if_true, bind, Except.bind, evalAll_on hs ts,
        Draft.view_takeAll, Draft.takeAll_takeAll]
      cases valueAll d.view hs ts <;> rfl

theorem evalEntries_on (hs : Handles) : ∀ (kvs : List (String × Term)) (d : Draft),
    (evalEntries hs kvs).on d = (valueEntries d.view hs kvs, d.takeAll (takesEntries d.view hs kvs))
  | [], d => rfl
  | (k, t) :: r, d => by
    simp only [evalEntries, on_bind, eval_on hs t d, valueEntries, takesEntries]
    cases t.value d.view hs with
    | error e => simp [Except.isOk, Except.toBool, bind, Except.bind]
    | ok v =>
      simp only [Except.isOk, Except.toBool, if_true, bind, Except.bind,
        evalEntries_on hs r, Draft.view_takeAll, Draft.takeAll_takeAll]
      cases valueEntries d.view hs r <;> rfl

theorem evalEntry_on (hs : Handles) (key : String) {otherwise : Drafting Value} {d : Draft}
    {r : Except TemplateFault Value} {fs : List String} (h : otherwise.on d = (r, d.takeAll fs)) :
    ∀ table : List (String × Term), (evalEntry hs key otherwise table).on d =
      (valueEntry d.view hs key r table, d.takeAll (takesEntry d.view hs key fs table))
  | [] => h
  | (k, t) :: rest => by
    simp only [evalEntry, valueEntry, takesEntry]
    by_cases hk : k = key
    · simp only [hk, if_true]; exact eval_on hs t d
    · simp only [hk, if_false]; exact evalEntry_on hs key h rest

theorem evalFirst_on (hs : Handles) (v : Value) : ∀ (ts : List Term) (d : Draft),
    (evalFirst hs v ts).on d = (valueFirst d.view hs v ts, d.takeAll (takesFirst d.view hs ts))
  | [], _ => rfl
  | t :: _, d => eval_on hs t d
end

end Term

/-! ## Steps -/

section
variable {d : Draft} {hs : Handles}

open Drafting

/-- What an addition makes of its attributes. -/
def Addition.making (a : Addition) (attrs : Attributes) : Draft.Making where
  type := a.type
  attributes := attrs
  role := a.role
  mode := if a.data then "data" else "resource"
  kind := a.kind
  graphRole := if a.dependency then "dependency" else ""

/-- The handles after an addition has made a resource. -/
def Addition.handles (a : Addition) (hs : Handles) (r : Resource) : Handles :=
  if a.handle = "" then hs else (a.handle, r) :: hs

theorem Addition.run_on (a : Addition) : (a.run hs).on d =
    ((Term.valueEntries d.view hs a.attrs).map fun attrs => a.handles hs (d.made (a.making attrs)),
      match Term.valueEntries d.view hs a.attrs with
      | .ok attrs => (d.takeAll (Term.takesEntries d.view hs a.attrs)).add (a.making attrs)
      | .error _ => d.takeAll (Term.takesEntries d.view hs a.attrs)) := by
  simp only [Addition.run, on_bind, Term.evalEntries_on]
  cases Term.valueEntries d.view hs a.attrs <;> rfl

theorem Exposure.run_on (o : Exposure) : (o.run hs).on d =
    ((o.value.value d.view hs).map fun _ => (),
      match o.value.value d.view hs with
      | .ok v => (d.takeAll (o.value.takes d.view hs)).output ⟨o.name, v, o.description, o.sensitive⟩
      | .error _ => d.takeAll (o.value.takes d.view hs)) := by
  simp only [Exposure.run, on_bind, Term.eval_on]
  cases o.value.value d.view hs <;> rfl

theorem Step.run_touch_on (t : Term) : ((Step.touch t).run hs).on d =
    ((t.value d.view hs).map fun _ => hs, d.takeAll (t.takes d.view hs)) := by
  simp only [Step.run, on_bind, Term.eval_on]
  cases t.value d.view hs <;> rfl

theorem Step.run_add_on (a : Addition) : ((Step.add a).run hs).on d =
    match a.onlyIf.holds d hs with
    | .ok true => (a.run hs).on d
    | .ok false => (.ok hs, d)
    | .error e => (.error e, d) := by
  simp only [Step.run, on_bind, on_get, on_lift]
  rcases a.onlyIf.holds d hs with _ | _ | _ <;> rfl

theorem Step.run_output_on (o : Exposure) : ((Step.output o).run hs).on d =
    match o.onlyIf.holds d hs with
    | .ok true => (((o.run hs).on d).1.map fun _ => hs, ((o.run hs).on d).2)
    | .ok false => (.ok hs, d)
    | .error e => (.error e, d) := by
  simp only [Step.run, on_bind, on_get, on_lift]
  rcases o.onlyIf.holds d hs with _ | _ | _
  · rfl
  · rfl
  · simp only [if_true, on_bind]
    rcases (o.run hs).on d with ⟨_ | _, _⟩ <;> rfl

theorem runSteps_cons_on (s : Step) (ss : List Step) : (runSteps hs (s :: ss)).on d =
    match (s.run hs).on d with
    | (.ok hs', d') => (runSteps hs' ss).on d'
    | (.error e, d') => (.error e, d') := by
  rw [runSteps, on_bind]
  rcases (s.run hs).on d with ⟨_ | _, _⟩ <;> rfl

/-! ## What a run leaves as it is -/

/-- How a draft may change: it keeps what it was started from, and its variables grow by those of
fields that were taken. -/
structure Draft.Grows (d d' : Draft) : Prop where
  origin : d'.origin = d.origin
  inputs : ∃ fs : List String, d'.inputs = fs.foldl d.takeInput d.inputs

theorem Draft.Grows.refl (d : Draft) : d.Grows d := ⟨rfl, [], rfl⟩

theorem Draft.Grows.service {d d' : Draft} (h : d.Grows d') : d'.service = d.service := by
  have hserv : d'.origin.service = d.origin.service := by rw [h.origin]
  exact hserv

theorem Draft.Grows.provider {d d' : Draft} (h : d.Grows d') : d'.provider = d.provider := by
  have hprov : d'.origin.provider = d.origin.provider := by rw [h.origin]
  exact hprov

/-- Taking a field looks at nothing but what the draft was started from. -/
theorem Draft.takeInput_eq_of_origin {d d' : Draft} (h : d'.origin = d.origin) :
    d'.takeInput = d.takeInput := by
  show d'.origin.takeInput = d.origin.takeInput
  rw [h]

theorem Draft.Grows.trans {d₁ d₂ d₃ : Draft} (h₁ : d₁.Grows d₂) (h₂ : d₂.Grows d₃) : d₁.Grows d₃ := by
  obtain ⟨fs, hfs⟩ := h₁.inputs
  obtain ⟨gs, hgs⟩ := h₂.inputs
  refine ⟨h₂.origin.trans h₁.origin, fs ++ gs, ?_⟩
  rw [hgs, Draft.takeInput_eq_of_origin h₁.origin, hfs, List.foldl_append]

theorem Step.run_grows : ∀ s : Step, d.Grows ((s.run hs).on d).2
  | .touch t => by
    rw [Step.run_touch_on]
    exact ⟨rfl, _, rfl⟩
  | .add a => by
    rw [Step.run_add_on]
    rcases a.onlyIf.holds d hs with _ | _ | _
    · exact .refl d
    · exact .refl d
    · rw [Addition.run_on]
      cases Term.valueEntries d.view hs a.attrs with
      | error e => exact ⟨rfl, _, rfl⟩
      | ok vs => exact ⟨rfl, _, rfl⟩
  | .output o => by
    rw [Step.run_output_on]
    rcases o.onlyIf.holds d hs with _ | _ | _
    · exact .refl d
    · exact .refl d
    · simp only [Exposure.run_on]
      cases o.value.value d.view hs with
      | error e => exact ⟨rfl, _, rfl⟩
      | ok v => exact ⟨rfl, _, rfl⟩

theorem runSteps_grows : ∀ {hs : Handles} {d : Draft} (ss : List Step),
    d.Grows ((runSteps hs ss).on d).2
  | _, d, [] => .refl d
  | hs, d, s :: ss => by
    rw [runSteps_cons_on]
    have hgrows : d.Grows ((s.run hs).on d).2 := s.run_grows
    rcases hrun : (s.run hs).on d with ⟨_ | hs', d'⟩
    · rwa [hrun] at hgrows
    · rw [hrun] at hgrows
      exact hgrows.trans (runSteps_grows ss)

end

end CloudScaffold
