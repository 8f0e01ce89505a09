import CloudScaffold.Proofs.Template.Recast
/-!
# Masked drafts

Masking a draft takes the contents out of its secrets: of the values of sensitive fields, and of the
variables that carry them, it keeps whether there is one. That is to recast it, and templates that read
no sensitive field bare do not see the difference. Main statement: `recasts_masked`.

A field is read bare where its value is not handed out through a variable. That is so for numbers,
flags and the engine of inbound rules, and for the naming field.
-/
namespace CloudScaffold

open Text Number

/-! ## Masks -/

/-- A value that says no more than whether there is one. -/
def Value.masked (v : Value) : Value := if v.isNull then .null else .str ""

/-- Values with those of the sensitive fields masked. -/
def Service.masked (s : Service) (values : Attributes) : Attributes :=
  values.map fun kv => (kv.1, if s.isSensitive kv.1 then kv.2.masked else kv.2)

def Variable.masked (v : Variable) : Variable := { v with value := v.value.masked }

def Draft.masked (d : Draft) : Draft :=
  { d with values := d.service.masked d.values, inputs := d.inputs.map (·.masked) }

def Graph.masked (g : Graph) : Graph := { g with inputs := g.inputs.map (·.masked) }

/-! ## What is read bare -/

def Cond.bare : Cond → List String
  | .flag f => [f]
  | .inbound => ["engine"]
  | .not c => c.bare
  | .always | .never | .equals _ _ | .given _ | .made _ | .kind _ => []

namespace Term

mutual
/-- The fields whose values a term reads otherwise than as they may be used. -/
def bare : Term → List String
  | .number f _ | .flag f | .ending _ f _ => [f]
  | .lookup _ table dflt => bareEntries table ++ bareAll dflt
  | .ite c t e => c.bare ++ t.bare ++ e.bare
  | .list ts | .interp ts => bareAll ts
  | .map kvs | .block kvs => bareEntries kvs
  | .json t => t.bare
  | .inboundBlocks _ | .inboundPorts | .inboundSources => ["engine"]
  | _ => []

def bareAll : List Term → List String
  | [] => []
  | t :: ts => t.bare ++ bareAll ts

def bareEntries : List (String × Term) → List String
  | [] => []
  | (_, t) :: r => t.bare ++ bareEntries r
end

end Term

def Step.bare : Step → List String
  | .touch t => t.bare
  | .add a => a.onlyIf.bare ++ Term.bareEntries a.attrs
  | .output o => o.onlyIf.bare ++ o.value.bare

namespace Service

/-- Whether none of some fields is sensitive. -/
def isOpen (s : Service) (fields : List String) : Bool := fields.all fun f => !s.isSensitive f

/-- Whether the naming field is not sensitive. -/
def isNamedOpenly (s : Service) : Bool := s.isOpen (s.namingField?.map (·.name)).toList

end Service

/-! ## Values -/

@[simp] theorem Value.isNull_masked (v : Value) : v.masked.isNull = v.isNull := by
  cases v <;> rfl

theorem Service.get?_masked (s : Service) (values : Attributes) (n : String) :
    (s.masked values).get? n =
      (values.get? n).map fun v => if s.isSensitive n then v.masked else v := by
  induction values with
  | nil => rfl
  | cons kv values ih =>
    unfold Service.masked Attributes.get? at ih ⊢
    rw [List.map_cons, List.lookup_cons, List.lookup_cons]
    by_cases hn : n = kv.1
    · simp [hn]
    · have hb : (n == kv.1) = false := by simpa using hn
      simp only [hb]
      exact ih

section
variable {d : Draft} {hs : Handles}

theorem get?_masked_of_open {f : String} (h : d.service.isSensitive f = false) :
    d.masked.values.get? f = d.values.get? f := by
  show (d.service.masked d.values).get? f = _
  rw [Service.get?_masked]
  simp [h]

theorem given_masked (f : String) : d.masked.given f .null =
    if d.service.isSensitive f then (d.given f .null).masked else d.given f .null := by
  show ((d.service.masked d.values).get? f).getD .null = _
  rw [Service.get?_masked, Draft.given]
  cases d.values.get? f with
  | none => by_cases h : d.service.isSensitive f = true <;> simp [h, Value.masked, Value.isNull]
  | some v => rfl

theorem isSecret_masked (f : String) :
    d.masked.isSecret f (d.masked.given f .null) = d.isSecret f (d.given f .null) := by
  rw [given_masked]
  show (d.service.isSensitive f && _) = (d.service.isSensitive f && _)
  by_cases h : d.service.isSensitive f = true <;> simp [h]

/-- **A value as it may be used** is the same with or without the mask. -/
theorem usable_masked (f : String) : d.masked.usable f .null = d.usable f .null := by
  simp only [Draft.usable, isSecret_masked]
  by_cases hs : d.isSecret f (d.given f .null) = true
  · simp [hs]
  · simp only [hs, Bool.false_eq_true, if_false, given_masked]
    by_cases h : d.service.isSensitive f = true
    · -- a sensitive value that is no secret is null
      have hnull : (d.given f .null).isNull = true := by simpa [Draft.isSecret, h] using hs
      simp only [h, if_true, Value.masked, hnull]
      cases hv : d.given f .null <;> simp_all [Value.isNull]
    · simp [h]

theorem number_masked {f : String} (h : d.service.isSensitive f = false) (n : Int) :
    d.masked.number f n = d.number f n := by
  simp only [Draft.number, get?_masked_of_open h]

theorem flag_masked {f : String} (h : d.service.isSensitive f = false) :
    d.masked.flag f = d.flag f := by
  simp only [Draft.flag, get?_masked_of_open h]

theorem inboundRules_masked (h : d.service.isSensitive "engine" = false) :
    d.masked.inboundRules = d.inboundRules := by
  have hrules : inboundRules? d.masked.provider d.masked.service.id d.masked.values =
      inboundRules? d.provider d.service.id d.values := by
    simp only [inboundRules?, get?_masked_of_open h]
    rfl
  rw [Draft.inboundRules, hrules, Draft.inboundRules]

theorem namingValue_masked (h : d.service.isNamedOpenly = true) :
    d.masked.namingValue = d.namingValue := by
  show (d.service.namingField?.bind fun f => d.masked.values.get? f.name).getD .null = _
  rw [Draft.namingValue]
  cases hf : d.service.namingField? with
  | none => rfl
  | some f =>
    have hopen : d.service.isSensitive f.name = false := by
      simpa [Service.isNamedOpenly, Service.isOpen, hf] using h
    simp only [Option.bind_some, get?_masked_of_open hopen]

theorem displayName_masked (h : d.service.isNamedOpenly = true) :
    d.masked.displayName = d.displayName := by
  simp only [Draft.displayName, namingValue_masked h]
  rfl

/-! ## What a masked draft answers -/

/-- The fields that a question asks for otherwise than as they may be used. -/
def Reading.bare : Reading → List String
  | .number f | .flag f => [f]
  | .inbound => ["engine"]
  | .value _ | .either _ _ | .label | .kind _ | .made _ => []

theorem Cond.flatMap_reads : ∀ c : Cond, c.reads.flatMap Reading.bare = c.bare
  | .always | .never | .flag _ | .equals _ _ | .given _ | .inbound | .made _ | .kind _ => rfl
  | .not c => c.flatMap_reads

namespace Term

mutual
/-- A term reads those fields bare that its questions ask for so. -/
theorem flatMap_reads : ∀ t : Term, t.reads.flatMap Reading.bare = t.bare
  | .lit _ | .field _ | .decimal _ | .fieldOr _ _ | .number _ _ | .flag _ | .ending _ _ _
  | .label _ _ | .compactName _ _ | .described _ | .tags _ | .kind _ _ | .made _ _
  | .inboundBlocks _ | .inboundPorts | .inboundSources => rfl
  | .lookup f table dflt => by
    rw [reads, List.flatMap_cons, List.flatMap_append, flatMap_readsEntries, flatMap_readsAll, bare]
    rfl
  | .ite c t e => by
    rw [reads, List.flatMap_append, List.flatMap_append, c.flatMap_reads, flatMap_reads t,
      flatMap_reads e, bare]
  | .list ts | .interp ts => flatMap_readsAll ts
  | .map kvs | .block kvs => flatMap_readsEntries kvs
  | .json t => flatMap_reads t

theorem flatMap_readsAll : ∀ ts : List Term, (readsAll ts).flatMap Reading.bare = bareAll ts
  | [] => rfl
  | t :: ts => by
    rw [readsAll, List.flatMap_append, flatMap_reads t, flatMap_readsAll ts, bareAll]

theorem flatMap_readsEntries : ∀ kvs : List (String × Term),
    (readsEntries kvs).flatMap Reading.bare = bareEntries kvs
  | [] => rfl
  | (k, t) :: r => by
    rw [readsEntries, List.flatMap_append, flatMap_reads t, flatMap_readsEntries r, bareEntries]
end

end Term

theorem Step.flatMap_reads : ∀ s : Step, s.reads.flatMap Reading.bare = s.bare
  | .touch t => t.flatMap_reads
  | .add a => by
    rw [reads, List.flatMap_append, a.onlyIf.flatMap_reads, Term.flatMap_readsEntries, bare]
  | .output o => by
    rw [reads, List.flatMap_append, o.onlyIf.flatMap_reads, o.value.flatMap_reads, bare]

/-- Whether the steps of a template read no sensitive field bare. -/
def Service.isOpenTo (s : Service) (t : Template) : Bool := t.all fun step => s.isOpen step.bare

theorem Service.isOpen_of_isOpenTo {s : Service} {t : Template} (h : s.isOpenTo t = true)
    {q : Reading}
    (hq : q ∈ t.flatMap Step.reads) : s.isOpen q.bare = true := by
  obtain ⟨step, hstep, hq⟩ := List.mem_flatMap.1 hq
  have hopen := List.all_eq_true.1 h step hstep
  rw [← step.flatMap_reads, isOpen, List.all_eq_true] at hopen
  exact List.all_eq_true.2 fun f hf => hopen f (List.mem_flatMap.2 ⟨q, hq, hf⟩)

/-- A masked draft answers alike what asks for no sensitive field bare. -/
theorem Reading.agrees_masked (hn : d.service.isNamedOpenly = true) {q : Reading}
    (h : d.service.isOpen q.bare = true) : q.Agrees d.masked hs d hs := by
  cases q with
  | value f => exact usable_masked f
  | either f g =>
    have heither : d.masked.either f g = d.either f g := by
      rw [Draft.either, usable_masked, usable_masked, Draft.either]
    exact ⟨heither, .inl (by rw [usable_masked])⟩
  | number f => exact number_masked (by simpa [Service.isOpen, bare] using h)
  | flag f => exact flag_masked (by simpa [Service.isOpen, bare] using h)
  | label => exact displayName_masked hn
  | inbound => exact inboundRules_masked (by simpa [Service.isOpen, bare] using h)
  | kind | made => rfl

theorem takeInput_masked (f : String) :
    d.masked.takeInput [] f = (d.takeInput [] f).map (·.masked) := by
  simp only [Draft.takeInput, isSecret_masked]
  by_cases hs : (d.isSecret f (d.given f .null) && !([] : List Variable).any (·.name == f)) = true
  · have hsec : d.service.isSensitive f = true := by
      simp only [Bool.and_eq_true, Draft.isSecret] at hs
      exact hs.1.1
    rw [if_pos hs, if_pos hs, given_masked, if_pos hsec]
    rfl
  · rw [if_neg hs, if_neg hs]
    rfl

/-- **Masking is recasting** that makes no difference to templates which read no sensitive field
bare. -/
theorem recasts_masked (hn : d.service.isNamedOpenly = true) {qs : List Reading}
    (h : ∀ q ∈ qs, d.service.isOpen q.bare = true) :
    Recasts d (d.service.masked d.values) Variable.masked qs where
  name _ := rfl
  naming := namingValue_masked hn
  declares := takeInput_masked
  answers q hq := Reading.agrees_masked hn (h q hq)

end

end CloudScaffold
