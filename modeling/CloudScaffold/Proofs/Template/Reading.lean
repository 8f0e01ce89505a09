import CloudScaffold.Proofs.Template.Evaluation
/-!
# What a term reads

A term asks a few questions of a draft: what the value of a field is, as it may be used, as a whole
number or as a flag, and what has been made so far. `Term.reads` lists them before any draft is
given, and two drafts that answer them alike give the term the same value, faults included
(`Term.value_congr`), and declare the same variables for it (`Term.takes_congr`).

The list names every branch of a term. A term may so be said to read more than it does, never less.
-/
namespace CloudScaffold

/-- A question to a draft and to the handles of a template. -/
inductive Reading where
  /-- The value of a field as it may be used. -/
  | value (field : String)
  /-- The value of a field if it counts as given, else that of another. -/
  | either (field other : String)
  | number (field : String)
  | flag (field : String)
  /-- The text that labels are made of. -/
  | label
  | inbound
  | kind (kind : String)
  | made (handle : String)
  deriving DecidableEq, Repr

/-- The value of a field if it counts as given, else that of another. -/
def Draft.either (d : Draft) (f g : String) : Value :=
  if (d.usable f .null).truthy then d.usable f .null else d.usable g .null

/-- Whether two drafts, each with its handles, answer a question alike. Where one of them has to take
a second field for the answer and the other has not, that must not declare a variable. -/
def Reading.Agrees (d₁ : Draft) (hs₁ : Handles) (d₂ : Draft) (hs₂ : Handles) : Reading → Prop
  | .value f => d₁.usable f .null = d₂.usable f .null
  | .either f g => d₁.either f g = d₂.either f g ∧
      ((d₁.usable f .null).truthy = (d₂.usable f .null).truthy ∨ d₁.service.isSensitive g = false)
  | .number f => ∀ n, d₁.number f n = d₂.number f n
  | .flag f => d₁.flag f = d₂.flag f
  | .label => d₁.displayName = d₂.displayName
  | .inbound => d₁.inboundRules = d₂.inboundRules
  | .kind k => d₁.kind? k = d₂.kind? k
  | .made h => hs₁.lookup h = hs₂.lookup h

def Cond.reads : Cond → List Reading
  | .always | .never => []
  | .flag f => [.flag f]
  | .equals f _ | .given f => [.value f]
  | .inbound => [.inbound]
  | .made h => [.made h]
  | .kind k => [.kind k]
  | .not c => c.reads

namespace Term

mutual
/-- What a term may ask. -/
def reads : Term → List Reading
  | .lit _ => []
  | .field f | .decimal f => [.value f]
  | .fieldOr f g => [.either f g]
  | .number f _ => [.number f]
  | .flag f => [.flag f]
  | .ending f g _ => [.value f, .flag g]
  | .label _ _ | .compactName _ _ | .described _ | .tags _ => [.label]
  | .kind k _ => [.kind k]
  | .made h _ => [.made h]
  | .lookup f table dflt => .value f :: (readsEntries table ++ readsAll dflt)
  | .ite c t e => c.reads ++ t.reads ++ e.reads
  | .list ts | .interp ts => readsAll ts
  | .map kvs | .block kvs => readsEntries kvs
  | .json t => t.reads
  | .inboundBlocks _ | .inboundPorts | .inboundSources => [.inbound]

def readsAll : List Term → List Reading
  | [] => []
  | t :: ts => t.reads ++ readsAll ts

def readsEntries : List (String × Term) → List Reading
  | [] => []
  | (_, t) :: r => t.reads ++ readsEntries r
end

end Term

def Step.reads : Step → List Reading
  | .touch t => t.reads
  | .add a => a.onlyIf.reads ++ Term.readsEntries a.attrs
  | .output o => o.onlyIf.reads ++ o.value.reads

/-! ## Drafts that answer alike -/

section
variable {d₁ d₂ : Draft} {hs₁ hs₂ : Handles}

theorem Cond.holds_congr : ∀ {c : Cond}, (∀ q ∈ c.reads, q.Agrees d₁ hs₁ d₂ hs₂) →
    c.holds d₁ hs₁ = c.holds d₂ hs₂
  | .always, _ | .never, _ => rfl
  | .flag f, h => congrArg Except.ok (h (.flag f) (List.mem_singleton_self _))
  | .equals f t, h =>
    congrArg (fun v => Except.ok (Value.isText t v)) (h (.value f) (List.mem_singleton_self _))
  | .given f, h =>
    congrArg (fun v => Except.ok (Value.truthy v)) (h (.value f) (List.mem_singleton_self _))
  | .inbound, h =>
    congrArg (Except.map fun (rs : List InboundRule) => !rs.isEmpty)
      (h .inbound (List.mem_singleton_self _))
  | .made n, h =>
    congrArg (fun (r : Option Resource) => Except.ok r.isSome)
      (h (.made n) (List.mem_singleton_self _))
  | .kind k, h =>
    congrArg (fun (r : Option Resource) => Except.ok r.isSome)
      (h (.kind k) (List.mem_singleton_self _))
  | .not c, h => congrArg (Except.map (!·)) (holds_congr (c := c) h)

theorem Draft.label_congr (h : d₁.displayName = d₂.displayName) (suffix : String) :
    d₁.label suffix = d₂.label suffix := by
  rw [Draft.label, h, Draft.label]

namespace Term

mutual
/-- **Drafts that answer alike give a term one value.** -/
theorem value_congr : ∀ {t : Term}, (∀ q ∈ t.reads, q.Agrees d₁ hs₁ d₂ hs₂) →
    t.value d₁ hs₁ = t.value d₂ hs₂
  | .lit _, _ => rfl
  | .field f, h => congrArg Except.ok (h (.value f) (List.mem_singleton_self _))
  | .fieldOr f g, h => congrArg Except.ok (h (.either f g) (List.mem_singleton_self _)).1
  | .number f n, h =>
    congrArg (Except.map Value.int) (h (.number f) (List.mem_singleton_self _) n)
  | .decimal f, h =>
    congrArg (fun v => (decimalOf v).map Value.float) (h (.value f) (List.mem_singleton_self _))
  | .flag f, h =>
    congrArg (fun b => Except.ok (Value.bool b)) (h (.flag f) (List.mem_singleton_self _))
  | .ending f g e, h => by
    have hf : d₁.usable f .null = d₂.usable f .null := h (.value f) (by simp [reads])
    have hg : d₁.flag g = d₂.flag g := h (.flag g) (by simp [reads])
    rw [value, hf, hg, value]
  | .label style suffix, h => by
    rw [value, Draft.label_congr (h .label (List.mem_singleton_self _)), value]
  | .compactName limit suffix, h =>
    congrArg (fun n => Except.ok (Value.str (compactNameOf limit suffix n)))
      (h .label (List.mem_singleton_self _))
  | .described lead, h =>
    congrArg (fun n => Except.ok (Value.str (lead ++ n))) (h .label (List.mem_singleton_self _))
  | .tags suffix, h => by
    rw [value, Draft.tags, Draft.label_congr (h .label (List.mem_singleton_self _)), value,
      Draft.tags]
  | .kind k a, h => by
    have hk : d₁.kind? k = d₂.kind? k := h (.kind k) (List.mem_singleton_self _)
    rw [value, Draft.kindRef, hk, value, Draft.kindRef]
  | .made n a, h => by
    have hn : hs₁.lookup n = hs₂.lookup n := h (.made n) (List.mem_singleton_self _)
    rw [value, hn, value]
  | .lookup f table dflt, h => by
    rw [reads, List.forall_mem_cons, List.forall_mem_append] at h
    obtain ⟨hf, htable, hdflt⟩ := h
    have hf : d₁.usable f .null = d₂.usable f .null := hf
    have hfirst := valueFirst_congr (v := d₂.usable f .null) hdflt
    rw [value, hf, value]
    split
    · split
      · exact valueEntry_congr _ hfirst htable
      · exact hfirst
    · rfl
  | .ite c t e, h => by
    rw [reads, List.forall_mem_append, List.forall_mem_append] at h
    obtain ⟨⟨hc, ht⟩, he⟩ := h
    rw [value, Cond.holds_congr hc, value_congr ht, value_congr he, value]
  | .list ts, h => congrArg (Except.map Value.list) (valueAll_congr h)
  | .interp ts, h => congrArg (Except.map Value.interp) (valueAll_congr h)
  | .map kvs, h => congrArg (Except.map Value.map) (valueEntries_congr h)
  | .block kvs, h => congrArg (Except.map Value.block) (valueEntries_congr h)
  | .json t, h => congrArg (· >>= jsonText) (value_congr (t := t) h)
  | .inboundBlocks parts, h =>
    congrArg (Except.map (CloudScaffold.inboundBlocks parts))
      (h .inbound (List.mem_singleton_self _))
  | .inboundPorts, h => by
    have hr : d₁.inboundRules = d₂.inboundRules := h .inbound (List.mem_singleton_self _)
    rw [value, hr, value]
  | .inboundSources, h => by
    have hr : d₁.inboundRules = d₂.inboundRules := h .inbound (List.mem_singleton_self _)
    rw [value, hr, value]

theorem valueAll_congr : ∀ {ts : List Term}, (∀ q ∈ readsAll ts, q.Agrees d₁ hs₁ d₂ hs₂) →
    valueAll d₁ hs₁ ts = valueAll d₂ hs₂ ts
  | [], _ => rfl
  | t :: ts, h => by
    rw [readsAll, List.forall_mem_append] at h
    rw [valueAll, value_congr h.1, valueAll_congr h.2, valueAll]

theorem valueEntries_congr : ∀ {kvs : List (String × Term)},
    (∀ q ∈ readsEntries kvs, q.Agrees d₁ hs₁ d₂ hs₂) →
      valueEntries d₁ hs₁ kvs = valueEntries d₂ hs₂ kvs
  | [], _ => rfl
  | (k, t) :: r, h => by
    rw [readsEntries, List.forall_mem_append] at h
    rw [valueEntries, value_congr h.1, valueEntries_congr h.2, valueEntries]

theorem valueEntry_congr (key : String) {x₁ x₂ : Except TemplateFault Value} (hx : x₁ = x₂) :
    ∀ {table : List (String × Term)}, (∀ q ∈ readsEntries table, q.Agrees d₁ hs₁ d₂ hs₂) →
      valueEntry d₁ hs₁ key x₁ table = valueEntry d₂ hs₂ key x₂ table
  | [], _ => hx
  | (k, t) :: r, h => by
    rw [readsEntries, List.forall_mem_append] at h
    rw [valueEntry, value_congr h.1, valueEntry_congr key hx h.2, valueEntry]

theorem valueFirst_congr {v : Value} : ∀ {ts : List Term},
    (∀ q ∈ readsAll ts, q.Agrees d₁ hs₁ d₂ hs₂) → valueFirst d₁ hs₁ v ts = valueFirst d₂ hs₂ v ts
  | [], _ => rfl
  | t :: _, h => by
    rw [readsAll, List.forall_mem_append] at h
    exact value_congr h.1
end

mutual
/-- **Drafts that answer alike declare the same variables for a term**: of the fields that it takes,
the sensitive ones are the same. -/
theorem takes_congr : ∀ {t : Term}, (∀ q ∈ t.reads, q.Agrees d₁ hs₁ d₂ hs₂) →
    (t.takes d₁ hs₁).filter d₁.service.isSensitive = (t.takes d₂ hs₂).filter d₁.service.isSensitive
  | .lit _, _ | .field _, _ | .decimal _, _ | .ending _ _ _, _ | .number _ _, _ | .flag _, _
  | .label _ _, _ | .compactName _ _, _ | .described _, _ | .tags _, _ | .kind _ _, _ | .made _ _, _
  | .inboundBlocks _, _ | .inboundPorts, _ | .inboundSources, _ => rfl
  | .fieldOr f g, h => by
    obtain ⟨-, heq | hopen⟩ := h (.either f g) (List.mem_singleton_self _)
    · rw [takes, heq, takes]
    · have hdrop : [f, g].filter d₁.service.isSensitive = [f].filter d₁.service.isSensitive := by
        rw [List.filter_cons, List.filter_cons, hopen, List.filter_cons]
        rfl
      have hone (b : Bool) : (if b then [f] else [f, g]).filter d₁.service.isSensitive =
          [f].filter d₁.service.isSensitive := by
        cases b
        · exact hdrop
        · rfl
      exact (hone _).trans (hone _).symm
  | .lookup f table dflt, h => by
    rw [reads, List.forall_mem_cons, List.forall_mem_append] at h
    obtain ⟨hf, htable, hdflt⟩ := h
    have hf : d₁.usable f .null = d₂.usable f .null := hf
    have hfirst := takesFirst_congr hdflt
    have hcons {xs ys : List String}
        (hxy : xs.filter d₁.service.isSensitive = ys.filter d₁.service.isSensitive) :
        (f :: xs).filter d₁.service.isSensitive = (f :: ys).filter d₁.service.isSensitive := by
      rw [List.filter_cons, List.filter_cons, hxy]
    rw [takes, hf, takes]
    refine hcons ?_
    split
    · split
      · exact takesEntry_congr _ hfirst htable
      · exact hfirst
    · rfl
  | .ite c t e, h => by
    rw [reads, List.forall_mem_append, List.forall_mem_append] at h
    obtain ⟨⟨hc, ht⟩, he⟩ := h
    rw [takes, Cond.holds_congr hc, takes]
    split
    · exact takes_congr ht
    · exact takes_congr he
    · rfl
  | .list ts, h | .interp ts, h =>
    show (takesAll d₁ hs₁ ts).filter _ = (takesAll d₂ hs₂ ts).filter _ from takesAll_congr h
  | .map kvs, h | .block kvs, h =>
    show (takesEntries d₁ hs₁ kvs).filter _ = (takesEntries d₂ hs₂ kvs).filter _ from
      takesEntries_congr h
  | .json t, h => takes_congr (t := t) h

theorem takesAll_congr : ∀ {ts : List Term}, (∀ q ∈ readsAll ts, q.Agrees d₁ hs₁ d₂ hs₂) →
    (takesAll d₁ hs₁ ts).filter d₁.service.isSensitive =
      (takesAll d₂ hs₂ ts).filter d₁.service.isSensitive
  | [], _ => rfl
  | t :: ts, h => by
    rw [readsAll, List.forall_mem_append] at h
    rw [takesAll, takesAll, List.filter_append, List.filter_append, takes_congr h.1,
      value_congr h.1]
    split
    · rw [takesAll_congr h.2]
    · rfl

theorem takesEntries_congr : ∀ {kvs : List (String × Term)},
    (∀ q ∈ readsEntries kvs, q.Agrees d₁ hs₁ d₂ hs₂) →
    (takesEntries d₁ hs₁ kvs).filter d₁.service.isSensitive =
      (takesEntries d₂ hs₂ kvs).filter d₁.service.isSensitive
  | [], _ => rfl
  | (k, t) :: r, h => by
    rw [readsEntries, List.forall_mem_append] at h
    rw [takesEntries, takesEntries, List.filter_append, List.filter_append, takes_congr h.1,
      value_congr h.1]
    split
    · rw [takesEntries_congr h.2]
    · rfl

theorem takesEntry_congr (key : String) {fs₁ fs₂ : List String}
    (hfs : fs₁.filter d₁.service.isSensitive = fs₂.filter d₁.service.isSensitive) :
    ∀ {table : List (String × Term)}, (∀ q ∈ readsEntries table, q.Agrees d₁ hs₁ d₂ hs₂) →
      (takesEntry d₁ hs₁ key fs₁ table).filter d₁.service.isSensitive =
        (takesEntry d₂ hs₂ key fs₂ table).filter d₁.service.isSensitive
  | [], _ => hfs
  | (k, t) :: r, h => by
    rw [readsEntries, List.forall_mem_append] at h
    rw [takesEntry, takesEntry]
    split
    · exact takes_congr h.1
    · exact takesEntry_congr key hfs h.2

theorem takesFirst_congr : ∀ {ts : List Term}, (∀ q ∈ readsAll ts, q.Agrees d₁ hs₁ d₂ hs₂) →
    (takesFirst d₁ hs₁ ts).filter d₁.service.isSensitive =
      (takesFirst d₂ hs₂ ts).filter d₁.service.isSensitive
  | [], _ => rfl
  | t :: _, h => by
    rw [readsAll, List.forall_mem_append] at h
    exact takes_congr h.1
end

end Term

end

/-! ## What is about one field -/

/-- Whether a question is about a field and nothing else. -/
def Reading.isAbout (f : String) : Reading → Bool
  | .value g | .number g | .flag g => g == f
  | .either _ _ | .label | .inbound | .kind _ | .made _ => false

def Cond.isAbout (f : String) (c : Cond) : Bool := c.reads.all (·.isAbout f)

def Term.isAbout (f : String) (t : Term) : Bool := t.reads.all (·.isAbout f)

section
variable {d₁ d₂ : Draft} {hs₁ hs₂ : Handles} {f : String}

theorem Draft.flag_eq_given (d : Draft) (f : String) : d.flag f = match d.given f .null with
    | .bool b => b
    | v => v.isText "Enabled" || v.isText "true" := by
  unfold Draft.flag Draft.given
  cases d.values.get? f with
  | none => rfl
  | some v => cases v <;> rfl

/-- Drafts of one service that have one value for a field answer alike what is about it. -/
theorem Reading.agrees_of_given (hs : d₁.service = d₂.service)
    (hf : d₁.given f .null = d₂.given f .null) {q : Reading} (hq : q.isAbout f = true) :
    q.Agrees d₁ hs₁ d₂ hs₂ := by
  cases q with
  | value g =>
    obtain rfl : g = f := by simpa [isAbout] using hq
    rw [Agrees, Draft.usable, Draft.usable, hf, Draft.isSecret, hs]
    rfl
  | number g =>
    obtain rfl : g = f := by simpa [isAbout] using hq
    intro n
    show (if (d₁.given g .null).isAbsent then _ else numberOf (d₁.given g .null)) = _
    rw [hf]
    rfl
  | flag g =>
    obtain rfl : g = f := by simpa [isAbout] using hq
    rw [Agrees, Draft.flag_eq_given, hf, Draft.flag_eq_given]
  | either | label | inbound | kind | made => cases hq

theorem Cond.holds_of_given (hs : d₁.service = d₂.service)
    (hf : d₁.given f .null = d₂.given f .null) {c : Cond} (hc : c.isAbout f = true) :
    c.holds d₁ hs₁ = c.holds d₂ hs₂ :=
  holds_congr fun q hq => Reading.agrees_of_given hs hf (List.all_eq_true.1 hc q hq)

theorem Term.value_of_given (hs : d₁.service = d₂.service)
    (hf : d₁.given f .null = d₂.given f .null) {t : Term} (ht : t.isAbout f = true) :
    t.value d₁ hs₁ = t.value d₂ hs₂ :=
  value_congr fun q hq => Reading.agrees_of_given hs hf (List.all_eq_true.1 ht q hq)

end

end CloudScaffold
