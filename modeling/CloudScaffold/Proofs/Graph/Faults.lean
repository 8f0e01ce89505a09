import CloudScaffold.Proofs.Graph.Soundness
import CloudScaffold.Proofs.Value.Attributes
/-!
# Faults of a graph

`Value.Holds` says where a pointer stands in a value, without collecting anything: at any depth of
blocks, mappings, lists, groups and interpolations. `Graph.WellPointed` asks of the pointers that are held
what the check asks of those that it collects. Main statement: `check_wellPointed`. A graph passes just
when it is well-pointed, and otherwise the fault that is reported is one that the graph shows.

The walk over the resources stops at a fault, so a fault is told with what stands before its owner: that is
what `Pointer.Allowed` compares a pointer with.
-/
namespace CloudScaffold

/-! ## Pointers in values -/

/-- Whether a pointer stands somewhere in a value. -/
inductive Value.Holds (p : Pointer) : Value → Prop
  | ref {r : Reference} (h : p = .ref r) : Holds p (.ref r)
  | var {n : String} (h : p = .var n) : Holds p (.var n)
  | part {ps : List Value} {v : Value} (hv : v ∈ ps) (h : v.Holds p) : Holds p (.interp ps)
  | item {xs : List Value} {v : Value} (hv : v ∈ xs) (h : v.Holds p) : Holds p (.list xs)
  | slot {xs : List Value} {v : Value} (hv : v ∈ xs) (h : v.Holds p) : Holds p (.tuple xs)
  | entry {kvs : List (String × Value)} {k : String} {v : Value} (hv : (k, v) ∈ kvs)
    (h : v.Holds p) : Holds p (.map kvs)
  | member {kvs : List (String × Value)} {k : String} {v : Value} (hv : (k, v) ∈ kvs)
    (h : v.Holds p) : Holds p (.block kvs)

section
variable {p : Pointer}

mutual
theorem Value.holds_of_mem_refs : ∀ {v : Value}, p ∈ v.refs → v.Holds p
  | .ref _, h => .ref (List.mem_singleton.1 h)
  | .var _, h => .var (List.mem_singleton.1 h)
  | .interp _, h => let ⟨_, hv, hp⟩ := holds_of_mem_refsList h; .part hv hp
  | .list _, h => let ⟨_, hv, hp⟩ := holds_of_mem_refsList h; .item hv hp
  | .tuple _, h => let ⟨_, hv, hp⟩ := holds_of_mem_refsList h; .slot hv hp
  | .map _, h => let ⟨_, _, hv, hp⟩ := holds_of_mem_refsEntries h; .entry hv hp
  | .block _, h => let ⟨_, _, hv, hp⟩ := holds_of_mem_refsEntries h; .member hv hp

theorem Value.holds_of_mem_refsList : ∀ {xs : List Value}, p ∈ Value.refsList xs →
    ∃ v, v ∈ xs ∧ v.Holds p
  | x :: xs, h => by
    rw [refsList, List.mem_append] at h
    rcases h with h | h
    · exact ⟨x, List.mem_cons_self, holds_of_mem_refs h⟩
    · obtain ⟨v, hv, hp⟩ := holds_of_mem_refsList h
      exact ⟨v, List.mem_cons_of_mem x hv, hp⟩

theorem Value.holds_of_mem_refsEntries : ∀ {kvs : List (String × Value)}, p ∈ Value.refsEntries kvs →
    ∃ k v, (k, v) ∈ kvs ∧ v.Holds p
  | (k, v) :: kvs, h => by
    rw [refsEntries, List.mem_append] at h
    rcases h with h | h
    · exact ⟨k, v, List.mem_cons_self, holds_of_mem_refs h⟩
    · obtain ⟨k', v', hv, hp⟩ := holds_of_mem_refsEntries h
      exact ⟨k', v', List.mem_cons_of_mem (k, v) hv, hp⟩
end

theorem Value.mem_refs_of_holds {v : Value} (h : v.Holds p) : p ∈ v.refs := by
  induction h with
  | ref h | var h => exact List.mem_singleton.2 h
  | part hv _ ih | item hv _ ih | slot hv _ ih => exact (mem_refsList _).2 ⟨_, hv, ih⟩
  | entry hv _ ih | member hv _ ih => exact (mem_refsEntries _).2 ⟨_, hv, ih⟩

/-- **What is collected is what is held.** -/
theorem Value.mem_refs_iff {v : Value} : p ∈ v.refs ↔ v.Holds p :=
  ⟨holds_of_mem_refs, mem_refs_of_holds⟩

/-- Whether a pointer stands somewhere in the attributes of a resource. -/
def Resource.Holds (p : Pointer) (r : Resource) : Prop := ∃ kv ∈ r.attributes, kv.2.Holds p

theorem Resource.mem_refs_iff {r : Resource} : p ∈ r.refs ↔ r.Holds p := by
  simp only [refs, Holds, Value.mem_refsEntries, Value.mem_refs_iff]

end

/-! ## Graphs without faults -/

/-- A graph in which every pointer leads somewhere. -/
structure Graph.WellPointed (g : Graph) : Prop where
  /-- No two resources have one address. -/
  distinct : g.resources.Pairwise fun q r => q.address ≠ r.address
  /-- A resource refers to resources that are listed before it. -/
  backwards : ∀ pre r post, g.resources = pre ++ r :: post →
    ∀ p, r.Holds (.ref p) → ∃ q ∈ pre, p.target = q.address
  /-- An output refers to resources of the graph. -/
  inside : ∀ o ∈ g.outputs, ∀ p, o.value.Holds (.ref p) → ∃ q ∈ g.resources, p.target = q.address
  /-- The variables that resources and outputs name are declared. -/
  declared : ∀ n, (∃ r ∈ g.resources, r.Holds (.var n)) ∨ (∃ o ∈ g.outputs, o.value.Holds (.var n)) →
    ∃ v ∈ g.inputs, v.name = n

theorem Graph.wellPointed_iff_sound {g : Graph} : g.WellPointed ↔ g.Sound := by
  have distinct : g.addresses.Nodup ↔ g.resources.Pairwise fun q r => q.address ≠ r.address :=
    List.pairwise_map
  have hmem (rs : List Resource) (a : String) :
      a ∈ rs.map (·.address) ↔ ∃ q ∈ rs, a = q.address := by
    simp only [List.mem_map, eq_comm]
  have hname (n : String) : n ∈ g.inputs.map (·.name) ↔ ∃ v ∈ g.inputs, v.name = n := List.mem_map
  constructor
  · rintro ⟨hd, hb, hi, hv⟩
    simp only [← hmem, ← hname, ← Resource.mem_refs_iff, ← Value.mem_refs_iff] at hb hi hv
    exact ⟨distinct.2 hd, hb, hi, hv⟩
  · rintro ⟨hd, hb, hi, hv⟩
    simp only [addresses, hmem, hname, Resource.mem_refs_iff, Value.mem_refs_iff] at hb hi hv
    exact ⟨distinct.1 hd, hb, hi, hv⟩

/-! ## Faults -/

/-- The fault of a pointer that leads nowhere. -/
def Pointer.fault (owner : String) : Pointer → GraphFault
  | .var n => .undeclaredVariable owner n
  | .ref r => .notDeclaredBefore owner r.target

/-- The faults that a graph shows, wherever they stand. -/
inductive Graph.Shows (g : Graph) : GraphFault → Prop
  /-- A resource has the address of one before it. -/
  | address {pre post : List Resource} {r : Resource} (hr : g.resources = pre ++ r :: post)
    (h : r.address ∈ pre.map (·.address)) : g.Shows (.duplicateAddress r.address)
  /-- A resource holds a pointer that leads nowhere before it. -/
  | resource {pre post : List Resource} {r : Resource} {p : Pointer}
    (hr : g.resources = pre ++ r :: post) (hp : r.Holds p)
    (h : ¬ p.Allowed (g.inputs.map (·.name)) (pre.map (·.address))) : g.Shows (p.fault r.address)
  /-- An output holds a pointer that leads nowhere in the graph. -/
  | output {o : Output} {p : Pointer} (ho : o ∈ g.outputs) (hp : o.value.Holds p)
    (h : ¬ p.Allowed (g.inputs.map (·.name)) g.addresses) : g.Shows (p.fault ("output." ++ o.name))

section
variable {declared : List String} {f : GraphFault}

theorem checkPointer_eq_error {before : List String} {owner : String} {p : Pointer}
    (h : checkPointer declared before owner p = .error f) :
    ¬ p.Allowed declared before ∧ f = p.fault owner := by
  refine ⟨fun ha => ?_, ?_⟩
  · rw [(checkPointer_eq_ok_iff owner).2 ha] at h
    cases h
  · cases p <;> simp only [checkPointer] at h <;> split at h <;> cases h <;> rfl

theorem checkPointers_eq_error {before : List String} {owner : String} : ∀ {ps : List Pointer},
    checkPointers declared before owner ps = .error f →
    ∃ p ∈ ps, ¬ p.Allowed declared before ∧ f = p.fault owner
  | p :: ps, h => by
    rw [checkPointers, bind_eq_error] at h
    rcases h with h | ⟨_, _, h⟩
    · exact ⟨p, List.mem_cons_self, checkPointer_eq_error h⟩
    · obtain ⟨q, hq, hf⟩ := checkPointers_eq_error h
      exact ⟨q, List.mem_cons_of_mem p hq, hf⟩

/-- Where the walk over the resources stopped, if it did. -/
theorem checkResources_eq_error : ∀ {before : List String} {rs : List Resource},
    checkResources declared before rs = .error f → ∃ pre r post, rs = pre ++ r :: post ∧
      ((r.address ∈ before ++ pre.map (·.address) ∧ f = .duplicateAddress r.address) ∨
        ∃ p ∈ r.refs, ¬ p.Allowed declared (before ++ pre.map (·.address)) ∧ f = p.fault r.address)
  | before, r :: rs, h => by
    rw [checkResources] at h
    by_cases hb : r.address ∈ before
    · have hf : f = .duplicateAddress r.address := by
        simpa [hb, bind, Except.bind, throw, throwThe, MonadExceptOf.throw, eq_comm] using h
      exact ⟨[], r, rs, rfl, .inl ⟨by simpa using hb, hf⟩⟩
    · have hc : ¬ before.contains r.address = true := by simpa using hb
      rw [if_neg hc] at h
      rcases bind_eq_error.1 h with h | ⟨_, _, h⟩
      · exact ⟨[], r, rs, rfl, .inr (by simpa using checkPointers_eq_error h)⟩
      · -- the walk went on, with one address more behind it
        obtain ⟨pre, q, post, rfl, hq⟩ := checkResources_eq_error h
        exact ⟨r :: pre, q, post, rfl, by simpa using hq⟩

theorem checkOutputs_eq_error {addresses : List String} : ∀ {os : List Output},
    checkOutputs declared addresses os = .error f →
    ∃ o ∈ os, ∃ p ∈ o.value.refs, ¬ p.Allowed declared addresses ∧ f = p.fault ("output." ++ o.name)
  | o :: os, h => by
    rw [checkOutputs, bind_eq_error] at h
    rcases h with h | ⟨_, _, h⟩
    · exact ⟨o, List.mem_cons_self, checkPointers_eq_error h⟩
    · obtain ⟨q, hq, hf⟩ := checkOutputs_eq_error h
      exact ⟨q, List.mem_cons_of_mem o hq, hf⟩

end

/-- What is reported is a fault of the graph. -/
theorem Graph.shows_of_check {g : Graph} {f : GraphFault} (h : g.check = .error f) : g.Shows f := by
  rw [Graph.check, bind_eq_error] at h
  rcases h with h | ⟨_, _, h⟩
  · obtain ⟨pre, r, post, heq, ⟨ha, rfl⟩ | ⟨p, hp, ha, rfl⟩⟩ := checkResources_eq_error h
    · exact .address heq (by simpa using ha)
    · exact .resource heq (Resource.mem_refs_iff.1 hp) (by simpa using ha)
  · obtain ⟨o, ho, p, hp, ha, rfl⟩ := checkOutputs_eq_error h
    exact .output ho (Value.mem_refs_iff.1 hp) ha

/-- **The check tells well-pointed graphs from the others**, and what it reports of these is one of
their faults. -/
theorem Graph.check_wellPointed (g : Graph) : (g.check = .ok () ↔ g.WellPointed) ∧
    (¬ g.WellPointed → ∃ f, g.check = .error f ∧ g.Shows f) := by
  have hiff : g.check = .ok () ↔ g.WellPointed :=
    check_eq_ok_iff_sound.trans wellPointed_iff_sound.symm
  refine ⟨hiff, fun hnot => ?_⟩
  cases hc : g.check with
  | ok u => exact absurd (hiff.1 hc) hnot
  | error f => exact ⟨f, rfl, shows_of_check hc⟩

/-- A resource is not among those before it, so it cannot refer to itself. -/
example : Graph.check
    { provider := "aws", service := "s3"
      resources := [{ type := "aws_s3_bucket", name := "logs"
                      attributes := [("rule", .list [.block [("target",
                        .interp [.str "log/", .ref ⟨"aws_s3_bucket", "logs", "arn", "resource"⟩])]])] }] } =
    .error (.notDeclaredBefore "aws_s3_bucket.logs" "aws_s3_bucket.logs") := by decide +kernel

end CloudScaffold
