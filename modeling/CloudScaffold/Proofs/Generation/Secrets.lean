import CloudScaffold.Generation
import CloudScaffold.Proofs.Catalog.Discreet
import CloudScaffold.Proofs.Hcl.Redacted
/-!
# Generation does not depend on secrets

Two requests for a service that differ in nothing but the texts of sensitive fields are answered
alike: the assistant is asked the same, and the answers are the same but for the values that the
graph and the file of the variable values carry. Main statement: `generate_alike`. It rests on
`generate_redacted`, which holds of every way in which an assistant may work.
-/
namespace CloudScaffold

open Hcl (redactFile)

/-! ## What is left of an answer -/

/-- An answer without the values of secrets. -/
def Generation.redacted (a : Generation) : Generation :=
  { a with files := a.files.map redactFile, graph := a.graph.map (·.masked) }

/-- The result of a request without the values of secrets. -/
def redactedResult : Except GenerationError Generation → Except GenerationError Generation :=
  Except.map Generation.redacted

section
variable {provider : String} {s : Service} {values values' : Attributes}

theorem Value.masked_masked (v : Value) : v.masked.masked = v.masked := by
  cases v <;> rfl

theorem Graph.masked_masked (g : Graph) : g.masked.masked = g.masked := by
  have hinputs : (g.inputs.map (·.masked)).map (·.masked) = g.inputs.map (·.masked) := by
    rw [List.map_map]
    refine List.map_congr_left fun v _ => ?_
    simp [Variable.masked, Value.masked_masked]
  simp only [Graph.masked, hinputs]

/-- The question for values has none of what the mask hides. -/
theorem question_masked (r : Request) : question r s (s.masked values) = question r s values := by
  have hfilter : (s.masked values).filter (fun kv => !s.isSensitive kv.1) =
      values.filter fun kv => !s.isSensitive kv.1 := by
    induction values with
    | nil => rfl
    | cons kv values ih =>
      by_cases hs : s.isSensitive kv.1 = true
      · simpa [Service.masked, hs] using ih
      · simpa [Service.masked, hs] using ih
  rw [question, hfilter, question]

/-- What is left of the answer that a graph gives. -/
theorem redactedResult_of_graph (g : Graph) :
    redactedResult (do
        let files ← (Hcl.projectFiles g).mapError GenerationError.files
        .ok { files := files, graph := some g }) =
      (((Hcl.projectFiles g).map (·.map redactFile)).mapError GenerationError.files).map fun files =>
        { files := files, graph := some g.masked } := by
  cases Hcl.projectFiles g <;> rfl

/-- What the templates give for masked values is what they give for the values, but for secrets. -/
theorem generateFromTemplates_masked (hd : Registry.shipped.isDiscreet provider s = true)
    (hp : ∀ n, ((values.get? n).getD .null).isPlain = true) :
    redactedResult (generateFromTemplates provider s (s.masked values)) =
      redactedResult (generateFromTemplates provider s values) := by
  have hbuild : buildGraph provider s (s.masked values) =
      (buildGraph provider s values).map (·.masked) := Registry.build_masked hd
  rw [generateFromTemplates, hbuild, generateFromTemplates]
  cases hg : buildGraph provider s values with
  | error e => rfl
  | ok g =>
    have hfiles := Hcl.projectFiles_masked (Registry.build_plain hg hp)
    have hleft := redactedResult_of_graph g.masked
    rw [hfiles, Graph.masked_masked] at hleft
    exact hleft.trans (redactedResult_of_graph g).symm

end

/-! ## Answering a request -/

/-- **Whatever the assistant does**, requests that differ in nothing but secrets make it do the same,
and lead to the same result but for secrets. -/
theorem generate_redacted {m : Type → Type} [Monad m] [LawfulMonad m]
    (ask : Question → m (Option String)) (always : Bool) (r : Request) {s : Service}
    {values : Attributes} (hs : Catalog.shipped.service r.provider r.service = .ok s)
    (h : s.Alike r.values values) :
    redactedResult <$> generate ask always { r with values := values } =
      redactedResult <$> generate ask always r := by
  obtain ⟨p, hp, hprov, hmem⟩ := Catalog.mem_of_service hs
  have hd : Registry.shipped.isDiscreet r.provider s = true := hprov ▸ shipped_isDiscreet p hp s hmem
  obtain ⟨_, _, hr, _⟩ := Registry.isSoundFor_iff.1 (hprov ▸ shipped_isSoundFor p hp s hmem)
  have hv := h.validated_masked (Registry.isDiscreet_iff.1 hd).1
  simp only [generate, hs]
  cases hv₁ : s.validated r.values with
  | error e =>
    -- the errors are the same in both
    cases hv₂ : s.validated values with
    | error e' => rw [hv₁, hv₂] at hv; cases hv; rfl
    | ok _ => rw [hv₁, hv₂] at hv; cases hv
  | ok vs =>
    cases hv₂ : s.validated values with
    | error e' => rw [hv₁, hv₂] at hv; cases hv
    | ok vs' =>
      have hmasked : s.masked vs = s.masked vs' := by rw [hv₁, hv₂] at hv; exact Except.ok.inj hv
      have hquestion : question { r with values := values } s vs' = question r s vs := by
        rw [← question_masked r, hmasked, question_masked]
        rfl
      have htemplates : redactedResult (generateFromTemplates r.provider s vs') =
          redactedResult (generateFromTemplates r.provider s vs) := by
        rw [← generateFromTemplates_masked hd (Service.validated_plain hv₂ hr), ← hmasked,
          generateFromTemplates_masked hd (Service.validated_plain hv₁ hr)]
      simp only [hquestion]
      split
      · rw [map_bind, map_bind]
        congr 1
        funext reply
        cases filesOfReply? reply with
        | some files => rfl
        | none => rw [map_pure, map_pure, htemplates]
      · rw [map_pure, map_pure, htemplates]

/-! ## Main statement -/

/-- The result of a request and what the assistant was asked for it, in order, when the assistant
replies to a question as `reply` says. -/
def conversation (reply : Question → Option String) (always : Bool) (r : Request) :
    Except GenerationError Generation × List Question :=
  let ask (q : Question) : StateM (List Question) (Option String) := do
    modify (· ++ [q])
    pure (reply q)
  Id.run ((generate ask always r).run [])

/-- Whether two answers differ in nothing but the contents of the file of the variable values. -/
structure Generation.Agrees (a b : Generation) : Prop where
  errors : a.errors = b.errors
  origin : a.origin = b.origin
  names : a.files.map (·.1) = b.files.map (·.1)
  contents : a.files.filter (·.1 ≠ "terraform.tfvars") = b.files.filter (·.1 ≠ "terraform.tfvars")

/-- Whether two requests failed in the same way or have answers that agree. -/
def ResultsAgree : Except GenerationError Generation → Except GenerationError Generation → Prop
  | .ok a, .ok b => a.Agrees b
  | .error e, .error e' => e = e'
  | _, _ => False

theorem map_fst_redactFile (files : List (String × String)) :
    (files.map redactFile).map (·.1) = files.map (·.1) := by
  rw [List.map_map]
  refine List.map_congr_left fun f _ => ?_
  rw [Function.comp_apply, redactFile]
  split <;> rfl

theorem filter_redactFile : ∀ files : List (String × String),
    (files.map redactFile).filter (·.1 ≠ "terraform.tfvars") = files.filter (·.1 ≠ "terraform.tfvars")
  | [] => rfl
  | f :: files => by
    have ih := filter_redactFile files
    by_cases hf : f.1 = "terraform.tfvars"
    · simpa [redactFile, hf] using ih
    · simpa [redactFile, hf] using ih

theorem Generation.agrees_of_redacted {a b : Generation} (h : a.redacted = b.redacted) :
    a.Agrees b := by
  have hfiles : a.files.map redactFile = b.files.map redactFile := by
    have hredacted : a.redacted.files = b.redacted.files := by rw [h]
    exact hredacted
  have herrors : a.redacted.errors = b.redacted.errors := by rw [h]
  have horigin : a.redacted.origin = b.redacted.origin := by rw [h]
  refine ⟨herrors, horigin, ?_, ?_⟩
  · rw [← map_fst_redactFile, hfiles, map_fst_redactFile]
  · rw [← filter_redactFile, hfiles, filter_redactFile]

theorem resultsAgree_of_redacted : ∀ {x y : Except GenerationError Generation},
    redactedResult x = redactedResult y → ResultsAgree x y
  | .ok _, .ok _, h => Generation.agrees_of_redacted (Except.ok.inj h)
  | .error _, .error _, h => Except.error.inj h
  | .ok _, .error _, h | .error _, .ok _, h => by cases h

/-- **Secrets stay out of everything but the file of the variable values**: for every service, two
requests that differ in nothing but the texts of sensitive fields ask the assistant the same and
have results that agree, whatever the assistant replies. -/
theorem generate_alike {r : Request} {s : Service} {values : Attributes}
    (hs : Catalog.shipped.service r.provider r.service = .ok s) (h : s.Alike r.values values)
    (reply : Question → Option String) (always : Bool) :
    (conversation reply always r).2 = (conversation reply always { r with values := values }).2 ∧
      ResultsAgree (conversation reply always r).1
        (conversation reply always { r with values := values }).1 := by
  have hrun := generate_redacted (m := StateM (List Question))
    (fun q => do modify (· ++ [q]); pure (reply q)) always r hs h
  have hrun := congrArg (fun x : StateM (List Question) _ => Id.run (x.run [])) hrun
  obtain ⟨hresult, hasked⟩ := Prod.mk.inj hrun
  exact ⟨hasked.symm, resultsAgree_of_redacted hresult.symm⟩

/-- A request for a database, by templates after the assistant was asked. -/
def ordersRequest : Request where
  provider := "aws"
  service := "rds"
  values := ordersDatabase
  useAssistant := true

theorem generate_alike_ordersRequest :
    (conversation (fun _ => none) false ordersRequest).2 =
        (conversation (fun _ => none) false
          { ordersRequest with values := ordersDatabase.insert "password" (.str "battery staple") }).2 ∧
      ResultsAgree (conversation (fun _ => none) false ordersRequest).1
        (conversation (fun _ => none) false
          { ordersRequest with values := ordersDatabase.insert "password" (.str "battery staple") }).1 := by
  have hs : Catalog.shipped.service "aws" "rds" = .ok Catalog.Aws.rds := rfl
  have h : Catalog.Aws.rds.Alike ordersDatabase
      (ordersDatabase.insert "password" (.str "battery staple")) :=
    .of_insert (t := "correct horse") (by decide) rfl (by decide) (by decide)
  exact generate_alike (r := ordersRequest) hs h (fun _ => none) false

end CloudScaffold
