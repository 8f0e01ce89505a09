import CloudScaffold.Proofs.Assistant.Names
import CloudScaffold.Proofs.Generation.Secrets
/-!
# Falling back to the templates

The assistant is asked at most once, and never about values that are not valid. If its reply holds
files, they are the answer; whatever else it does leaves no trace in the answer, which is the one of
the same request without the assistant. Main statement: `conversation_falls_back`.
-/
namespace CloudScaffold

/-! ## Replies -/

namespace Assistant

/-- A reply that is accepted holds a file. -/
theorem parseFiles_ne_nil {text : String} {files : List (String × String)}
    (h : parseFiles text = .ok files) : files ≠ [] := by
  unfold parseFiles at h
  split at h
  · cases h
  · rename_i hne
    obtain ⟨⟨name, body⟩, rest, hs⟩ := List.exists_cons_of_ne_nil hne
    rw [hs] at h
    obtain ⟨_, _, more, _, rfl⟩ := filesOf_cons_eq_ok.1 h
    exact List.cons_ne_nil _ _

end Assistant

theorem filesOfReply?_eq_some {reply : Option String} {files : List (String × String)} :
    filesOfReply? reply = some files ↔
      ∃ text, reply = some text ∧ Assistant.parseFiles text = .ok files := by
  have hoption (text : String) : (Assistant.parseFiles text).toOption = some files ↔
      Assistant.parseFiles text = .ok files := by
    cases Assistant.parseFiles text <;> simp [Except.toOption]
  simp only [filesOfReply?, Option.bind_eq_some_iff, hoption]

theorem Behaviour.reply?_eq_some {b : Behaviour} {text : String} :
    b.reply? = some text ↔ b = .returned (.str text) := by
  constructor
  · intro h
    unfold Behaviour.reply? at h
    split at h
    · cases h
      rfl
    · cases h
  · rintro rfl
    rfl

/-- Only a text that is returned gives files, and only if it is accepted. -/
theorem filesOfReply?_eq_some_iff {b : Behaviour} {files : List (String × String)} :
    filesOfReply? b.reply? = some files ↔
      ∃ text, b = .returned (.str text) ∧ Assistant.parseFiles text = .ok files := by
  simp only [filesOfReply?_eq_some, Behaviour.reply?_eq_some]

/-! ## Requests -/

section
variable {m : Type → Type} [Monad m] {ask : Question → m (Option String)} {always : Bool}
  {r : Request} {s : Service} {errors : List FieldError} {values : Attributes}

theorem validated_ne_nil (h : s.validated values = .error errors) : errors ≠ [] := by
  unfold Service.validated at h
  dsimp only at h
  split at h
  · cases h
  · rename_i hne
    cases h
    simpa using hne

theorem generate_of_invalid (hs : Catalog.shipped.service r.provider r.service = .ok s)
    (hv : s.validated r.values = .error errors) :
    generate ask always r = pure (.ok { errors := errors }) := by
  unfold generate
  rw [hs]
  dsimp only
  rw [hv]

theorem generate_of_unasked (hs : Catalog.shipped.service r.provider r.service = .ok s)
    (hv : s.validated r.values = .ok values) (h : (r.useAssistant || always) = false) :
    generate ask always r = pure (generateFromTemplates r.provider s values) := by
  unfold generate
  rw [hs]
  dsimp only
  rw [hv]
  dsimp only
  rw [h, if_neg (by simp)]

theorem generate_of_asked (hs : Catalog.shipped.service r.provider r.service = .ok s)
    (hv : s.validated r.values = .ok values) (h : (r.useAssistant || always) = true) :
    generate ask always r = (do
      match filesOfReply? (← ask (question r s values)) with
      | some files => pure (.ok { files := files, origin := .assistant })
      | none => pure (generateFromTemplates r.provider s values)) := by
  unfold generate
  rw [hs]
  dsimp only
  rw [hv]
  dsimp only
  exact if_pos h

end

/-! ## Conversations -/

section
variable {reply : Question → Option String} {always : Bool} {r : Request} {s : Service}
  {errors : List FieldError} {values : Attributes}

theorem conversation_of_invalid (hs : Catalog.shipped.service r.provider r.service = .ok s)
    (hv : s.validated r.values = .error errors) :
    conversation reply always r = (.ok { errors := errors }, []) := by
  unfold conversation
  dsimp only
  rw [generate_of_invalid hs hv]
  rfl

theorem conversation_of_unasked (hs : Catalog.shipped.service r.provider r.service = .ok s)
    (hv : s.validated r.values = .ok values) (h : (r.useAssistant || always) = false) :
    conversation reply always r = (generateFromTemplates r.provider s values, []) := by
  unfold conversation
  dsimp only
  rw [generate_of_unasked hs hv h]
  rfl

theorem conversation_of_asked (hs : Catalog.shipped.service r.provider r.service = .ok s)
    (hv : s.validated r.values = .ok values) (h : (r.useAssistant || always) = true) :
    conversation reply always r =
      (match filesOfReply? (reply (question r s values)) with
        | some files => .ok { files := files, origin := .assistant }
        | none => generateFromTemplates r.provider s values, [question r s values]) := by
  unfold conversation
  dsimp only
  rw [generate_of_asked hs hv h]
  cases hf : filesOfReply? (reply (question r s values)) <;> simp [hf]

end

/-- Whatever an assistant does, requests are answered alike but for the files that it gives. -/
theorem conversation_falls_back {r : Request} {s : Service}
    (hs : Catalog.shipped.service r.provider r.service = .ok s) (behaviour : Question → Behaviour)
    (always : Bool) :
    let asked := conversation (fun q => (behaviour q).reply?) always r
    let templates :=
      conversation (fun q => (behaviour q).reply?) false { r with useAssistant := false }
    (∀ errors, s.validated r.values = .error errors → errors ≠ [] ∧
      asked = (.ok { files := [], errors := errors, graph := none }, [])) ∧
    (∀ values, s.validated r.values = .ok values → (r.useAssistant || always) = false →
      asked = templates ∧ asked.2 = []) ∧
    ∀ values, s.validated r.values = .ok values → (r.useAssistant || always) = true →
      ∃ q, asked.2 = [q] ∧ q.provider = r.provider ∧ q.service = s.name ∧ q.prompt = r.prompt ∧
        q.requirements = values.filter (fun kv => !s.isSensitive kv.1) ∧
        (∀ text files, behaviour q = .returned (.str text) →
          Assistant.parseFiles text = .ok files →
            files ≠ [] ∧ asked.1 = .ok { files := files, origin := .assistant, graph := none }) ∧
        ((∀ text files, behaviour q = .returned (.str text) →
          Assistant.parseFiles text ≠ .ok files) → asked.1 = templates.1) := by
  intro asked templates
  refine ⟨fun errors hv => ⟨validated_ne_nil hv, conversation_of_invalid hs hv⟩,
    fun values hv h => ?_, fun values hv h => ?_⟩
  all_goals
    have htemplates : templates = (generateFromTemplates r.provider s values, []) :=
      conversation_of_unasked (r := { r with useAssistant := false }) hs hv rfl
  · have hasked : asked = (generateFromTemplates r.provider s values, []) :=
      conversation_of_unasked hs hv h
    rw [hasked, htemplates]
    exact ⟨rfl, rfl⟩
  · have hasked : asked = _ := conversation_of_asked hs hv h
    refine ⟨question r s values, congrArg (·.2) hasked, rfl, rfl, rfl, rfl,
      fun text files hb hparse => ⟨Assistant.parseFiles_ne_nil hparse, ?_⟩, fun hnone => ?_⟩
    · have hfiles := filesOfReply?_eq_some_iff.2 ⟨text, hb, hparse⟩
      rw [hasked, hfiles]
    · have hfiles : filesOfReply? (behaviour (question r s values)).reply? = none := by
        by_contra hsome
        obtain ⟨files, hsome⟩ := Option.ne_none_iff_exists'.1 hsome
        obtain ⟨text, hb, hparse⟩ := filesOfReply?_eq_some_iff.1 hsome
        exact hnone text files hb hparse
      rw [hasked, hfiles, htemplates]

/-- A request that is answered by the templates, since the assistant repeats a file. -/
theorem conversation_falls_back_ordersRequest :
    let behaviour (_ : Question) : Behaviour :=
      .returned (.str "# main.tf\nresource\n# main.tf\nresource\n")
    let asked := conversation (fun q => (behaviour q).reply?) false ordersRequest
    let templates := conversation (fun q => (behaviour q).reply?) false
      { ordersRequest with useAssistant := false }
    ∃ q, asked.2 = [q] ∧ asked.1 = templates.1 := by
  intro behaviour asked templates
  have hs : Catalog.shipped.service "aws" "rds" = .ok Catalog.Aws.rds := rfl
  obtain ⟨q, hq, _, _, _, _, _, hnone⟩ :=
    (conversation_falls_back (r := ordersRequest) hs behaviour false).2.2 _
      validated_ordersDatabase rfl
  refine ⟨q, hq, hnone fun text files hb => ?_⟩
  cases hb
  have hparse : Assistant.parseFiles "# main.tf\nresource\n# main.tf\nresource\n" =
    .error (.repeatedFile "main.tf") := by decide +kernel
  simp [hparse]

end CloudScaffold
