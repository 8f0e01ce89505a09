import CloudScaffold.Proofs.Generation.Total
import CloudScaffold.Server.Handle
/-!
# Answers to generations

A request to generate files for a service of the catalog is answered with 200 or with 422, whatever
else its body says and whatever the assistant does (`handleGenerate_tells`), as long as the values
can be told in an answer and numeric texts keep to the length of numerals. Main statement:
`generation_answered`, which says the same of generation itself.
-/
namespace CloudScaffold.Server

/-! ## Faults of a body -/

/-- Whether all that the faults of a part tell has a property. -/
def Part.Tells (P : Value → Prop) {α : Type} (p : Part α) : Prop :=
  ∀ faults, p = .error faults → ∀ f ∈ faults, P f.value

section
variable {P : Value → Prop} {α β : Type} {p : Part α} {q : Part β}

theorem Part.both_eq_ok {a : α} {b : β} : p.both q = .ok (a, b) ↔ p = .ok a ∧ q = .ok b := by
  cases p <;> cases q <;> simp [Part.both]

theorem Part.Tells.ok (a : α) : Part.Tells P (.ok a) := by
  intro faults h
  cases h

theorem Part.Tells.faultAt (path : List String) (kind : FaultKind) {v : Value} (h : P v) :
    Part.Tells P (.error (faultAt path kind v) : Part α) := by
  intro faults hf f hmem
  cases hf
  rw [List.mem_singleton.1 hmem]
  exact h

theorem Part.Tells.both (hp : p.Tells P) (hq : q.Tells P) : (p.both q).Tells P := by
  intro faults h f hf
  cases p with
  | ok a =>
    cases q with
    | ok b => cases h
    | error e => cases h; exact hq _ rfl f hf
  | error e =>
    cases q with
    | ok b => cases h; exact hp _ rfl f hf
    | error e' =>
      cases h
      rcases List.mem_append.1 hf with hf | hf
      · exact hp _ rfl f hf
      · exact hq _ rfl f hf

theorem Part.Tells.map (hp : p.Tells P) (f : α → β) : Part.Tells P (Except.map f p) := by
  intro faults h
  cases p with
  | ok a => cases h
  | error e => cases h; exact hp _ rfl

end

section
variable {P : Value → Prop} {doc : Attributes} (hdoc : P (.map doc))
  (hget : ∀ k v, doc.get? k = some v → P v) (k : String)
include hdoc hget

theorem requiredText_tells : (requiredText doc k).Tells P := by
  unfold requiredText
  split
  · exact .faultAt _ _ hdoc
  · exact .ok _
  · next v _ hv => exact .faultAt _ _ (hget k v hv)

end

section
variable {P : Value → Prop} {doc : Attributes} (hget : ∀ k v, doc.get? k = some v → P v) (k : String)
include hget

theorem optionalMapping_tells : (optionalMapping doc k).Tells P := by
  unfold optionalMapping
  split
  · exact .ok _
  · exact .ok _
  · next v _ hv => exact .faultAt _ _ (hget k v hv)

theorem optionalTextMember_tells : (optionalTextMember doc k).Tells P := by
  unfold optionalTextMember
  split
  · exact .ok _
  · exact .ok _
  · exact .ok _
  · next v _ _ hv => exact .faultAt _ _ (hget k v hv)

theorem optionalBool_tells : (optionalBool doc k).Tells P := by
  unfold optionalBool
  dsimp only
  split
  · exact .ok _
  · exact .ok _
  · next hv =>
    split
    · exact .ok _
    · exact .faultAt _ _ (hget k _ hv)
  -- a number is told if it is no truth value, and also if it is out of range
  · next hv =>
    split
    · split
      · exact .ok _
      · exact .faultAt _ _ (hget k _ hv)
    · exact .faultAt _ _ (hget k _ hv)
  · next hv =>
    split
    · split
      · exact .ok _
      · exact .faultAt _ _ (hget k _ hv)
    · exact .faultAt _ _ (hget k _ hv)
  · next v _ _ _ _ hv => exact .faultAt _ _ (hget k v hv)

end

theorem GenerateBody.ofMembers_tells {P : Value → Prop} {doc : Attributes} (hdoc : P (.map doc))
    (hget : ∀ k v, doc.get? k = some v → P v) : Part.Tells P (GenerateBody.ofMembers doc) :=
  .map (.both (.both (requiredText_tells hdoc hget _) (requiredText_tells hdoc hget _))
    (.both (optionalMapping_tells hget _)
      (.both (optionalTextMember_tells hget _) (optionalBool_tells hget _)))) _

section
variable {doc : Attributes} {k : String}

theorem requiredText_eq_ok {t : String} :
    requiredText doc k = .ok t ↔ doc.get? k = some (.str t) := by
  unfold requiredText
  split
  · next h => simp [h, faultAt]
  · next h => simp [h]
  · next v hne h =>
    rw [h]
    constructor
    · intro h; cases h
    · intro h; cases h; exact absurd rfl (hne t)

theorem optionalMapping_eq_ok {kvs : Attributes} (h : optionalMapping doc k = .ok kvs) :
    kvs = [] ∨ doc.get? k = some (.map kvs) := by
  unfold optionalMapping at h
  split at h
  · cases h; exact .inl rfl
  · next hget => cases h; exact .inr hget
  · cases h

/-- A body that was read is about the provider, the service and the values that it names. -/
theorem GenerateBody.ofMembers_eq_ok {b : GenerateBody} (h : ofMembers doc = .ok b) :
    doc.get? "provider" = some (.str b.provider) ∧ doc.get? "service" = some (.str b.service) ∧
      (b.values = [] ∨ doc.get? "values" = some (.map b.values)) := by
  obtain ⟨⟨⟨provider, service⟩, values, prompt, useAssistant⟩, hparts, rfl⟩ := map_eq_ok.1 h
  obtain ⟨hnames, hrest⟩ := Part.both_eq_ok.1 hparts
  obtain ⟨hprovider, hservice⟩ := Part.both_eq_ok.1 hnames
  obtain ⟨hvalues, -⟩ := Part.both_eq_ok.1 hrest
  exact ⟨requiredText_eq_ok.1 hprovider, requiredText_eq_ok.1 hservice,
    optionalMapping_eq_ok hvalues⟩

end

/-! ## Documents that can be sent -/

theorem areSendable_iff {xs : List Value} :
    areSendable xs = true ↔ ∀ x ∈ xs, isSendable x = true := by
  induction xs with
  | nil => simp [areSendable]
  | cons x xs ih => rw [areSendable, Bool.and_eq_true, ih, List.forall_mem_cons]

theorem entriesSendable_iff {kvs : Attributes} :
    entriesSendable kvs = true ↔ ∀ kv ∈ kvs, isSendable kv.2 = true := by
  induction kvs with
  | nil => simp [entriesSendable]
  | cons kv kvs ih => rw [entriesSendable, Bool.and_eq_true, ih, List.forall_mem_cons]

theorem isSendable_texts (xs : List String) : isSendable (.list (xs.map .str)) = true := by
  rw [isSendable, areSendable_iff]
  intro x hx
  obtain ⟨s, _, rfl⟩ := List.mem_map.1 hx
  rfl

theorem isSendable_document {e : FieldError} (h : isSendable e.value = true) :
    isSendable e.document = true := by
  simp only [FieldError.document, isSendable, entriesSendable, h, Bool.true_and, Bool.and_true]
  cases e.options with
  | some xs => exact isSendable_texts xs
  | none => rfl

/-! ## Answers -/

/-- The status of a response. -/
def Response.status : Response → Nat
  | answered status _ | bare status => status
  | invalid _ => 422
  | failed => 500

/-- Whether a response tells of files, or of what is wrong with a request for them. -/
def Response.IsTold (r : Response) : Prop := r.status = 200 ∨ r.status = 422

theorem refuseBody_isTold {faults : List BodyFault} (h : ∀ f ∈ faults, isSendable f.value = true) :
    (refuseBody faults).IsTold := by
  rw [refuseBody, if_pos (List.all_eq_true.2 h)]
  exact .inr rfl

/-- Files are told. -/
theorem answerGeneration_files {g : Generation} (h : g.errors = []) :
    (answerGeneration (.ok g)).IsTold := by
  have hsend : isSendable (.map [("source", .str g.origin.name),
      ("files", .map (g.files.map fun f => (f.1, .str f.2)))]) = true := by
    have hfiles : entriesSendable (g.files.map fun f => (f.1, .str f.2)) = true := by
      rw [entriesSendable_iff]
      intro kv hkv
      obtain ⟨f, _, rfl⟩ := List.mem_map.1 hkv
      rfl
    simp only [isSendable, entriesSendable, hfiles, Bool.and_self]
  left
  simp only [answerGeneration, h, List.isEmpty_nil, if_true, answer, hsend, Response.status]

/-- Errors are told, if their values can be. -/
theorem answerGeneration_errors {g : Generation} (hne : g.errors ≠ [])
    (h : ∀ e ∈ g.errors, isSendable e.value = true ∧ depth e.value ≤ errorDepth) :
    (answerGeneration (.ok g)).IsTold := by
  have hdepth : g.errors.any (fun e => errorDepth < depth e.value) = false := by
    rw [List.any_eq_false]
    intro e he
    simpa using (h e he).2
  have hsend : areSendable (g.errors.map (·.document)) = true := by
    rw [areSendable_iff]
    intro x hx
    obtain ⟨e, he, rfl⟩ := List.mem_map.1 hx
    exact isSendable_document (h e he).1
  right
  simp only [answerGeneration, List.isEmpty_eq_false_iff.2 hne, hdepth, refuse, answer, isSendable,
    entriesSendable, hsend, Bool.and_self, Bool.false_eq_true, if_false, if_true, Response.status]

/-! ## Requests -/

/-- Whether a handler tells of files or of what is wrong, in every state of the server. -/
def Handler.Tells (x : Handler Response) : Prop :=
  ∀ st, (Id.run (x.run st)).1.IsTold

section
variable {c : Config} {s : Service} {b : GenerateBody}

/-- **A body for a service of the catalog is answered.** -/
theorem handleGenerate_tells (hs : Catalog.shipped.service b.provider b.service = .ok s)
    (hfit : s.NumeralsFit b.values)
    (hsend : ∀ n v, b.values.get? n = some v → isSendable v = true ∧ depth v ≤ errorDepth) :
    Handler.Tells (handleGenerate c b) := by
  intro st
  unfold handleGenerate
  dsimp only
  generalize hr : Request.mk b.provider b.service b.values (b.prompt.getD "") b.useAssistant = r
  have hs' : Catalog.shipped.service r.provider r.service = .ok s := by rw [← hr]; exact hs
  cases hv : s.validated r.values with
  | error errors =>
    rw [generate_of_invalid hs' hv]
    refine answerGeneration_errors (validated_ne_nil hv) fun e he => ?_
    rcases value_of_mem_errors hv he with h | ⟨t, h⟩ | ⟨n, h⟩
    · rw [h]; exact ⟨rfl, Nat.zero_le _⟩
    · rw [h]; exact ⟨rfl, Nat.zero_le _⟩
    · exact hsend n _ (by rw [← h, ← hr])
  | ok values =>
    have hdig : s.WithinDigits r.values := by
      have hfit' : s.NumeralsFit r.values := by rw [← hr]; exact hfit
      exact hfit'.withinDigits hs' hv
    obtain ⟨g, files, htemplates, _⟩ := generateFromTemplates_ok hs' hv hdig
    have htold : (answerGeneration (.ok { files := files, graph := some g })).IsTold :=
      answerGeneration_files (g := { files := files, graph := some g }) rfl
    by_cases hasked : (r.useAssistant || c.always) = true
    · rw [generate_of_asked hs' hv hasked]
      cases hf : filesOfReply? (c.reply (question r s values)) with
      | some files =>
        have hgiven : (answerGeneration (.ok { files := files, origin := .assistant })).IsTold :=
          answerGeneration_files (g := { files := files, origin := .assistant }) rfl
        simpa [ask, hf] using hgiven
      | none => simpa [ask, hf, htemplates] using htold
    · rw [generate_of_unasked hs' hv (by simpa using hasked), htemplates]
      exact htold

/-- A body that can be sent is answered, or is told what is wrong with it. -/
theorem withBody_tells {content : Content} {doc : Attributes} {k : GenerateBody → Handler Response}
    (hc : readContent content = .ok (some (.map doc))) (hsend : isSendable (.map doc) = true)
    (hk : ∀ b, GenerateBody.ofMembers doc = .ok b → Handler.Tells (k b)) :
    Handler.Tells (withBody GenerateBody.ofMembers content k) := by
  have hbody : (bodyMembers (some (.map doc))).bind GenerateBody.ofMembers =
    GenerateBody.ofMembers doc := rfl
  have hget : ∀ n v, doc.get? n = some v → isSendable v = true := fun n v hv =>
    entriesSendable_iff.1 hsend (n, v) (Attributes.mem_of_get? hv)
  unfold withBody
  rw [hc]
  dsimp only
  rw [hbody]
  cases hb : GenerateBody.ofMembers doc with
  | error faults =>
    intro st
    have htells := GenerateBody.ofMembers_tells (P := fun v => isSendable v = true) hsend hget
    exact refuseBody_isTold (htells faults hb)
  | ok b => exact hk b hb

end

theorem ofReference_generate : Route.ofReference "/generate" = .ok (some .generate) := by
  have h : (Route.ofReference "/generate").toOption = some (some .generate) := by decide +kernel
  cases hr : Route.ofReference "/generate" with
  | ok route => rw [hr] at h; cases h; rfl
  | error e => rw [hr] at h; cases h

/-- A request that comes to its place is handled there. -/
theorem handle_generate {c : Config} {content : Content}
    (h : Handler.Tells (handleRoute c content .generate)) (st : State) :
    ∃ response, (Id.run ((handle c { method := "POST", path := "/generate", content := content }).run.run
      st)).1 = .ok response ∧ response.IsTold := by
  have hmethod : Route.generate.methods.contains "POST".toUpper = true := by decide +kernel
  have hat : handleAt c { method := "POST", path := "/generate", content := content }
      (some .generate) = handleRoute c content .generate := by
    simp only [handleAt, hmethod, if_true]
  refine ⟨_, ?_, h st⟩
  rw [handle, ofReference_generate, ← hat]
  rfl

/-- Requests for a service of the catalog are answered: generation without the assistant gives errors
and nothing else, or files without errors; and the server answers with 200 or with 422. -/
theorem generation_answered {provider id : String} {s : Service}
    (hs : Catalog.shipped.service provider id = .ok s) :
    (∀ (m : Type → Type) [Monad m] (ask : Question → m (Option String)) (prompt : String)
      (values : Attributes), s.NumeralsFit values →
      ∃ g : Generation, generate ask false
          { provider := provider, service := id, values := values, prompt := prompt } = pure (.ok g) ∧
        ((g.errors ≠ [] ∧ g.files = [] ∧ g.graph = none) ∨
          (g.errors = [] ∧ g.files ≠ [] ∧ g.graph.isSome = true))) ∧
    ∀ (c : Config) (content : Content) (doc : Attributes),
      readContent content = .ok (some (.map doc)) → isSendable (.map doc) = true →
      doc.get? "provider" = some (.str provider) → doc.get? "service" = some (.str id) →
      (∀ values, doc.get? "values" = some (.map values) →
        s.NumeralsFit values ∧ ∀ kv ∈ values, depth kv.2 ≤ errorDepth) →
      ∀ st, ∃ response, (Id.run ((handle c
          { method := "POST", path := "/generate", content := content }).run.run st)).1 = .ok response ∧
        (response.status = 200 ∨ response.status = 422) := by
  refine ⟨fun m _ ask prompt values hfit => generate_settled ask hs rfl hfit,
    fun c content doc hc hsend hprovider hservice hvalues => handle_generate ?_⟩
  refine withBody_tells hc hsend fun b hb => ?_
  obtain ⟨hp, hi, hb⟩ := GenerateBody.ofMembers_eq_ok hb
  have hbp : b.provider = provider := by simpa [hp] using hprovider
  have hbi : b.service = id := by simpa [hi] using hservice
  have hmembers := entriesSendable_iff.1 hsend
  refine handleGenerate_tells (by rw [hbp, hbi]; exact hs) ?_ fun n v hv => ?_
  · rcases hb with hb | hb
    · rw [hb]
      intro f _ _ t ht _
      cases ht
    · exact (hvalues _ hb).1
  · rcases hb with hb | hb
    · rw [hb] at hv
      cases hv
    · have hmem := Attributes.mem_of_get? hv
      have hvals : isSendable (.map b.values) = true := hmembers _ (Attributes.mem_of_get? hb)
      exact ⟨entriesSendable_iff.1 hvals _ hmem, (hvalues _ hb).2 _ hmem⟩

/-- A virtual machine with a disk of a size within the limit. -/
theorem generation_answered_wideDisk :
    let values := (wideDisk "50").values
    let body : Value := .map
      [("provider", .str "aws"), ("service", .str "ec2"), ("values", .map values)]
    let c : Config := { runner := ⟨"terraform", 900, 1⟩, reply := fun _ => none }
    let st : State := { world := { script := { steps := [], otherwise := fun _ => .timedOut } } }
    (∃ g, Id.run (generate (fun _ => none) false (wideDisk "50")) = .ok g ∧
      ((g.errors ≠ [] ∧ g.files = [] ∧ g.graph = none) ∨
        (g.errors = [] ∧ g.files ≠ [] ∧ g.graph.isSome = true))) ∧
    ∃ response, (Id.run ((handle c
        { method := "POST", path := "/generate", content := .json body }).run.run st)).1 = .ok response ∧
      (response.status = 200 ∨ response.status = 422) := by
  intro values body c st
  have hfit : Catalog.Aws.ec2.NumeralsFit values := by
    intro f _ _ t ht _
    have hmem := Attributes.mem_of_get? ht
    simp only [values, wideDisk, List.mem_cons, List.not_mem_nil, or_false, Prod.mk.injEq,
      Value.str.injEq] at hmem
    rcases hmem with ⟨_, rfl⟩ | ⟨_, rfl⟩ <;> decide +kernel
  have hs : Catalog.shipped.service "aws" "ec2" = .ok Catalog.Aws.ec2 := rfl
  obtain ⟨hgenerate, hserver⟩ := generation_answered hs
  refine ⟨hgenerate Id _ "" values hfit, hserver c (.json body) _ rfl (by decide +kernel) rfl rfl ?_ st⟩
  intro vs hvs
  cases hvs
  exact ⟨hfit, by decide +kernel⟩

end CloudScaffold.Server
