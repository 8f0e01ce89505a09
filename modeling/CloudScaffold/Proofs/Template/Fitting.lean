import CloudScaffold.Proofs.Hcl.Writable
import CloudScaffold.Proofs.Number.Numeral
import CloudScaffold.Proofs.Template.SketchRun
/-!
# What templates make can be written

`Term.fits` says of a term, before any value is given, that its value can stand at a place: between
the quotes of an interpolation, as an expression, as a member of a body, or as one of a list of
blocks. Nothing is asked of conditions, so both branches must fit. Main statements: a term that fits
has no value that does not (`Fed.fits_sound`), and a template whose steps fit leaves nothing in a
draft that cannot be written (`Written.apply`).
-/
namespace CloudScaffold

open Hcl Number Text

/-! ## Places -/

/-- Where a value is to stand. -/
inductive Place where
  | part
  | expression
  | member
  | block
  deriving DecidableEq, Repr

/-- Whether any expression can stand at a place. -/
def Place.takesExpressions : Place → Bool
  | expression | member => true
  | part | block => false

/-- Whether a value can stand at a place. -/
def Value.fits : Place → Value → Bool
  | .part, v => isPart v
  | .expression, v => isExpression v
  | .member, v => isMember v
  | .block, .block kvs => areMembers kvs
  | .block, _ => false

section
variable {v : Value} {p : Place}

theorem isExpression_of_isPart (h : isPart v = true) : isExpression v = true := by
  cases v <;> simp_all [isPart, isExpression]

theorem isBlockList_of_areExpressions {xs : List Value} (h : areExpressions xs = true) :
    isBlockList xs = false := by
  cases xs with
  | nil => rfl
  | cons x xs =>
    cases x with
    | block kvs => cases h
    | _ => rfl

theorem isMember_of_isExpression (h : isExpression v = true) : isMember v = true := by
  cases v with
  | list xs => simp_all [isMember, areMembers, isExpression, isBlockList_of_areExpressions]
  | _ => simp_all [isMember, areMembers, isExpression]

theorem fits_of_isExpression (h : isExpression v = true) (hp : p.takesExpressions = true) :
    v.fits p = true := by
  cases p with
  | expression => exact h
  | member => exact isMember_of_isExpression h
  | part | block => cases hp

theorem fits_of_isPart (h : isPart v = true) (hp : p ≠ .block) : v.fits p = true := by
  cases p with
  | part => exact h
  | expression => exact isExpression_of_isPart h
  | member => exact isMember_of_isExpression (isExpression_of_isPart h)
  | block => exact absurd rfl hp

theorem isMember_of_isPlain (h : v.isPlain = true) : isMember v = true := by
  cases v <;> simp_all [Value.isPlain, isMember, areMembers, isExpression]

theorem areBlocks_of_fits {xs : List Value} (h : ∀ x ∈ xs, x.fits .block = true) :
    areBlocks xs = true := by
  induction xs with
  | nil => rfl
  | cons x xs ih =>
    obtain ⟨hx, hxs⟩ := List.forall_mem_cons.1 h
    cases x with
    | block kvs => rw [areBlocks, Bool.and_eq_true]; exact ⟨hx, ih hxs⟩
    | _ => cases hx

/-- Blocks in a list are repeated blocks. -/
theorem isMember_blocks {xs : List Value} (h : ∀ x ∈ xs, x.fits .block = true) :
    isMember (.list xs) = true := by
  have hlist : isBlockList xs = true ∨ xs = [] := by
    cases xs with
    | nil => exact .inr rfl
    | cons x xs =>
      left
      simp only [isBlockList, List.isEmpty_cons, Bool.not_false, Bool.true_and, List.all_eq_true]
      intro y hy
      have := h y hy
      cases y with
      | block kvs => rfl
      | _ => cases this
  rcases hlist with hl | rfl
  · simp [isMember, areMembers, hl, areBlocks_of_fits h]
  · rfl

end

/-! ## Terms that fit -/

/-- Whether every value of a shape can stand at a place. -/
def Shape.fits (p : Place) : Shape → Bool
  | .oneOf vs => vs.all (·.fits p)
  | .numeral | .text => p != .block

/-- Whether the blocks of inbound rules can be written with a member. -/
def InboundPart.fits : InboundPart → Bool
  | .position first => first < 10 ^ 5
  | _ => true

namespace Term

section
variable (shapes : String → Option Shape)

mutual
/-- Whether a term has no value but those that can stand at a place. -/
def fits (p : Place) : Term → Bool
  | .lit v => v.fits p
  | .field f | .ending f _ _ => p == .member || (shapes f).any (·.fits p)
  | .fieldOr _ g => p == .member || p == .expression && (shapes g).any (·.fits p)
  | .number _ n => p.takesExpressions && (writeInt n).isOk
  | .decimal _ | .flag _ | .tags _ | .inboundPorts => p.takesExpressions
  | .label _ _ | .compactName _ _ | .described _ | .kind _ _ | .made _ _ | .json _ => p != .block
  | .lookup _ table dflt => fitsEntries p table && fitsAll p dflt
  | .ite _ t e => t.fits p && e.fits p
  | .list ts => p.takesExpressions && fitsAll .expression ts || p == .member && fitsAll .block ts
  | .map kvs => p.takesExpressions && fitsEntries .member kvs
  | .block kvs => (p == .member || p == .block) && fitsEntries .member kvs
  | .interp ts => p.takesExpressions && fitsAll .part ts
  | .inboundBlocks parts => p == .member && parts.all (·.2.fits)
  | .inboundSources => p == .member

def fitsAll (p : Place) : List Term → Bool
  | [] => true
  | t :: ts => t.fits p && fitsAll p ts

def fitsEntries (p : Place) : List (String × Term) → Bool
  | [] => true
  | (_, t) :: r => t.fits p && fitsEntries p r
end

end

end Term

/-- Whether what a step makes can be written. -/
def Step.fits (shapes : String → Option Shape) : Step → Bool
  | .touch _ => true
  | .add a => Term.fitsEntries shapes .member a.attrs
  | .output o => o.value.fits shapes .member

/-! ## What terms read -/

/-- What is known of the values that a draft was started from. -/
structure Draft.Fed (shapes : String → Option Shape) (d : Draft) : Prop where
  plain : ∀ f, (d.given f .null).isPlain = true
  shapes : ∀ f sh, shapes f = some sh →
    d.usable f .null = d.given f .null ∧ sh.Holds (d.given f .null)

/-- Whether ports are few, with few digits. -/
def AreFew (ports : List Nat) : Prop := ports.length ≤ 3 ∧ ∀ p ∈ ports, p < 10 ^ 5

theorem areFew_enginePort (engine : String) : AreFew [enginePort engine] := by
  refine ⟨by simp, ?_⟩
  rw [List.forall_mem_singleton]
  unfold enginePort
  split <;> decide

theorem areFew_fixed {e : (String × String) × (InboundPorts × Bool)} (he : e ∈ inboundContracts)
    {ps : List Nat} (hps : e.2.1 = .fixed ps) : AreFew ps := by
  simp only [inboundContracts, List.mem_cons, List.not_mem_nil, or_false] at he
  rcases he with rfl | rfl | rfl | rfl | rfl <;> simp_all [AreFew]
  all_goals (subst hps; simp)

theorem AreFew.map {ps : List Nat} (h : AreFew ps) {f : Nat → InboundRule}
    (hf : ∀ p, (f p).port = p) : AreFew ((ps.map f).map (·.port)) := by
  have hid : ((·.port) ∘ f) = id := funext hf
  rwa [List.map_map, hid, List.map_id]

/-- The rules of a service are few, and so are the digits of their ports. -/
theorem areFew_inboundRules? {provider service : String} {values : Attributes}
    {rs : List InboundRule} (h : inboundRules? provider service values = some rs) :
    AreFew (rs.map (·.port)) := by
  unfold inboundRules? at h
  split at h
  · cases h
    exact ⟨by simp, by simp⟩
  · rename_i ports fromInternet hlook
    cases ports with
    | fixed ps =>
      obtain ⟨l₁, l₂, hl, _⟩ := List.lookup_eq_some_iff.1 hlook
      have hmem : ((provider, service), (.fixed ps, fromInternet)) ∈ inboundContracts := by
        rw [hl]; simp
      cases h
      exact (areFew_fixed hmem rfl).map fun _ => rfl
    | ofEngine =>
      -- whatever the engine is, it opens one port
      have hone {engine : String} (h : some ([enginePort engine].map fun p => (⟨portName p, p,
          if fromInternet then internetCidr else networkCidr⟩ : InboundRule)) = some rs) :
          AreFew (rs.map (·.port)) := by
        cases h
        exact (areFew_enginePort engine).map fun _ => rfl
      dsimp only at h
      split at h
      · exact hone h
      · exact hone h
      · split at h
        · exact hone h
        · cases h
      · exact hone h

section
variable {shapes : String → Option Shape} {d : Draft} {hs : Handles} {p : Place}

theorem Draft.areFew_inboundRules {rs : List InboundRule} (h : d.inboundRules = .ok rs) :
    AreFew (rs.map (·.port)) := by
  unfold Draft.inboundRules at h
  split at h
  · next hrs => cases h; exact areFew_inboundRules? hrs
  · cases h

theorem isExpression_of_lt {n : Nat} (h : n < 10 ^ 6) : isExpression (.int n) = true := by
  rw [isExpression]
  exact writeInt_of_lt (by rwa [Int.natAbs_natCast])

theorem InboundPart.isMember_value {part : InboundPart} (hpart : part.fits = true) {r : InboundRule}
    (hport : r.port < 10 ^ 5) {i : Nat} (hi : i < 3) : isMember (part.value r i) = true := by
  refine isMember_of_isExpression ?_
  cases part with
  | position first =>
    rw [InboundPart.fits, decide_eq_true_eq] at hpart
    exact isExpression_of_lt (by omega)
  | port => exact isExpression_of_lt (by omega)
  | text | name | portText | cidr | cidrList => rfl

theorem isMember_inboundBlocks {parts : List (String × InboundPart)} {rs : List InboundRule}
    (hparts : ∀ part ∈ parts, part.2.fits = true) (hrs : AreFew (rs.map (·.port))) :
    isMember (inboundBlocks parts rs) = true := by
  obtain ⟨hlen, hports⟩ := hrs
  rw [List.length_map] at hlen
  unfold inboundBlocks
  split
  · rfl
  · refine isMember_blocks fun x hx => ?_
    obtain ⟨⟨r, i⟩, hri, rfl⟩ := List.mem_map.1 hx
    obtain ⟨_, hi, hr⟩ := List.mem_zipIdx hri
    refine areMembers_iff.2 fun kv hkv => ?_
    obtain ⟨part, hpart, rfl⟩ := List.mem_map.1 hkv
    have hmem : r ∈ rs := hr ▸ List.getElem_mem _
    exact InboundPart.isMember_value (hparts part hpart)
      (hports _ (List.mem_map_of_mem hmem)) (by omega)

theorem isExpression_texts {α : Type} (f : α → String) (xs : List α) :
    isExpression (.list (xs.map fun x => .str (f x))) = true := by
  rw [isExpression, areExpressions_iff]
  intro x hx
  obtain ⟨s, _, rfl⟩ := List.mem_map.1 hx
  rfl

theorem fits_str {s t : String} (h : (Value.str s).fits p = true) : (Value.str t).fits p = true := by
  cases p <;> first | rfl | cases h

theorem Shape.Holds.fits {sh : Shape} {v : Value} (hv : sh.Holds v) (h : sh.fits p = true) :
    v.fits p = true := by
  cases sh with
  | oneOf vs => exact List.all_eq_true.1 h v hv
  | numeral =>
    obtain ⟨s, rfl, _⟩ := hv
    exact fits_of_isPart rfl (by simpa [Shape.fits] using h)
  | text =>
    obtain ⟨s, rfl⟩ := hv
    exact fits_of_isPart rfl (by simpa [Shape.fits] using h)

/-- What is known of a field decides where its value can stand. -/
theorem Draft.Fed.fits_usable (h : d.Fed shapes) {f : String}
    (hf : (shapes f).any (·.fits p) = true) : (d.usable f .null).fits p = true := by
  obtain ⟨sh, hsh, hfits⟩ := (Option.any_eq_true _ _).1 hf
  obtain ⟨hu, hv⟩ := h.shapes f sh hsh
  rw [hu]
  exact hv.fits hfits

/-- The value of any field can be a member. -/
theorem Draft.Fed.isMember_usable (h : d.Fed shapes) (f : String) :
    isMember (d.usable f .null) = true := by
  unfold Draft.usable
  by_cases hs : d.isSecret f (d.given f .null) = true
  · rw [if_pos hs]; rfl
  · rw [if_neg hs]; exact isMember_of_isPlain (h.plain f)

/-- A value that counts as given is an expression. -/
theorem Draft.Fed.isExpression_usable (h : d.Fed shapes) {f : String}
    (ht : (d.usable f .null).truthy = true) : isExpression (d.usable f .null) = true := by
  unfold Draft.usable at ht ⊢
  by_cases hs : d.isSecret f (d.given f .null) = true
  · rw [if_pos hs]; rfl
  · rw [if_neg hs] at ht ⊢
    have hplain := h.plain f
    cases hv : d.given f .null <;> simp_all [Value.isPlain, Value.truthy, isExpression]

theorem fits_withEnding {e : String} {v u : Value} (h : v.fits p = true)
    (hu : Term.withEnding e v = .ok u) : u.fits p = true := by
  cases v with
  | str s => cases hu; exact fits_str h
  | _ => cases hu

theorem isPart_jsonText {v u : Value} (h : Term.jsonText v = .ok u) : isPart u = true := by
  unfold Term.jsonText at h
  split at h
  · cases h; rfl
  · cases h

theorem isExpression_number (h : d.Fed shapes) {f : String} {n m : Int}
    (hn : (writeInt n).isOk = true) (hm : d.number f n = .ok m) : isExpression (.int m) = true := by
  have hplain := h.plain f
  have heq : d.number f n =
      if (d.given f .null).isAbsent then .ok n else numberOf (d.given f .null) := rfl
  rw [heq] at hm
  rw [isExpression]
  split at hm
  · cases hm; exact hn
  · cases hv : d.given f .null with
    | str s =>
      rw [hv, numberOf] at hm
      cases hr : readInt s with
      | ok k => rw [hr] at hm; cases hm; exact writeInt_of_readInt hr
      | error e => rw [hr] at hm; cases hm
    | bool b =>
      rw [hv] at hm
      cases hm
      exact writeInt_of_lt (by cases b <;> decide)
    | null => rw [hv] at hm; cases hm
    | _ => rw [hv] at hplain; cases hplain

/-! ## Terms

One case a constructor; a list of terms fits item by item, and a table entry by entry. -/

mutual
/-- **Terms that fit have no values but those that fit.** -/
theorem Draft.Fed.fits_sound (h : d.Fed shapes) : ∀ {t : Term} {p : Place} {v : Value},
    t.fits shapes p = true → t.value d hs = .ok v → v.fits p = true
  | .lit u, p, v, ht, hv => by
    cases hv
    exact ht
  | .field f, p, v, ht, hv => by
    cases hv
    simp only [Term.fits, Bool.or_eq_true, beq_iff_eq] at ht
    rcases ht with rfl | hf
    · exact h.isMember_usable f
    · exact h.fits_usable hf
  | .ending f g e, p, v, ht, hv => by
    simp only [Term.fits, Bool.or_eq_true, beq_iff_eq] at ht
    have hu : (d.usable f .null).fits p = true := by
      rcases ht with rfl | hf
      · exact h.isMember_usable f
      · exact h.fits_usable hf
    rw [Term.value] at hv
    split at hv
    · exact fits_withEnding hu hv
    · cases hv; exact hu
  | .fieldOr f g, p, v, ht, hv => by
    cases hv
    simp only [Term.fits, Bool.or_eq_true, Bool.and_eq_true, beq_iff_eq] at ht
    split
    · next htruthy =>
      rcases ht with rfl | ⟨rfl, _⟩
      · exact h.isMember_usable f
      · exact h.isExpression_usable htruthy
    · rcases ht with rfl | ⟨rfl, hg⟩
      · exact h.isMember_usable g
      · exact h.fits_usable hg
  | .number f n, p, v, ht, hv => by
    simp only [Term.fits, Bool.and_eq_true] at ht
    obtain ⟨m, hm, rfl⟩ := map_eq_ok.1 hv
    exact fits_of_isExpression (isExpression_number h ht.2 hm) ht.1
  | .decimal f, p, v, ht, hv => by
    obtain ⟨x, _, rfl⟩ := map_eq_ok.1 hv
    exact fits_of_isExpression rfl ht
  | .flag f, p, v, ht, hv => by
    cases hv
    exact fits_of_isExpression rfl ht
  | .tags suffix, p, v, ht, hv => by
    cases hv
    exact fits_of_isExpression rfl ht
  | .inboundPorts, p, v, ht, hv => by
    obtain ⟨rs, _, rfl⟩ := map_eq_ok.1 hv
    exact fits_of_isExpression (isExpression_texts (fun r => showInt r.port) rs) ht
  | .label style suffix, p, v, ht, hv | .compactName _ suffix, p, v, ht, hv
  | .described lead, p, v, ht, hv => by
    cases hv
    exact fits_of_isPart rfl (by simpa [Term.fits] using ht)
  | .kind k a, p, v, ht, hv => by
    obtain ⟨r, _, rfl⟩ := map_eq_ok.1 hv
    exact fits_of_isPart rfl (by simpa [Term.fits] using ht)
  | .made n a, p, v, ht, hv => by
    rw [Term.value] at hv
    split at hv
    · cases hv; exact fits_of_isPart rfl (by simpa [Term.fits] using ht)
    · cases hv
  | .json t, p, v, ht, hv => by
    obtain ⟨u, _, hj⟩ := bind_eq_ok.1 hv
    exact fits_of_isPart (isPart_jsonText hj) (by simpa [Term.fits] using ht)
  | .lookup f table dflt, p, v, ht, hv => by
    simp only [Term.fits, Bool.and_eq_true] at ht
    have hfirst (u : Value) : ∀ w, Term.valueFirst d hs u dflt = .ok w → w.fits p = true :=
      fun w => h.fitsFirst_sound ht.2
    rw [Term.value] at hv
    split at hv
    · split at hv
      · exact h.fitsEntry_sound ht.1 (hfirst _) hv
      · exact hfirst _ v hv
    · cases hv
  | .ite c t e, p, v, ht, hv => by
    simp only [Term.fits, Bool.and_eq_true] at ht
    obtain ⟨b, _, hv⟩ := bind_eq_ok.1 hv
    cases b with
    | true => exact h.fits_sound ht.1 hv
    | false => exact h.fits_sound ht.2 hv
  | .list ts, p, v, ht, hv => by
    obtain ⟨vs, hvs, rfl⟩ := map_eq_ok.1 hv
    simp only [Term.fits, Bool.or_eq_true, Bool.and_eq_true, beq_iff_eq] at ht
    rcases ht with ⟨hp, hts⟩ | ⟨rfl, hts⟩
    · exact fits_of_isExpression (areExpressions_iff.2 (h.fitsAll_sound hts hvs)) hp
    · exact isMember_blocks (h.fitsAll_sound hts hvs)
  | .map kvs, p, v, ht, hv => by
    obtain ⟨vs, hvs, rfl⟩ := map_eq_ok.1 hv
    simp only [Term.fits, Bool.and_eq_true] at ht
    exact fits_of_isExpression (areMembers_iff.2 (h.fitsEntries_sound ht.2 hvs)) ht.1
  | .block kvs, p, v, ht, hv => by
    obtain ⟨vs, hvs, rfl⟩ := map_eq_ok.1 hv
    simp only [Term.fits, Bool.or_eq_true, Bool.and_eq_true, beq_iff_eq] at ht
    have hmembers := areMembers_iff.2 (h.fitsEntries_sound ht.2 hvs)
    rcases ht.1 with rfl | rfl
    · simpa [Value.fits, isMember, areMembers] using hmembers
    · exact hmembers
  | .interp ts, p, v, ht, hv => by
    obtain ⟨vs, hvs, rfl⟩ := map_eq_ok.1 hv
    simp only [Term.fits, Bool.and_eq_true] at ht
    refine fits_of_isExpression ?_ ht.1
    exact List.all_eq_true.2 (h.fitsAll_sound ht.2 hvs)
  | .inboundBlocks parts, p, v, ht, hv => by
    obtain ⟨rs, hrs, rfl⟩ := map_eq_ok.1 hv
    simp only [Term.fits, Bool.and_eq_true, beq_iff_eq, List.all_eq_true] at ht
    obtain ⟨rfl, hparts⟩ := ht
    exact isMember_inboundBlocks hparts (Draft.areFew_inboundRules hrs)
  | .inboundSources, p, v, ht, hv => by
    obtain ⟨rs, _, rfl⟩ := map_eq_ok.1 hv
    simp only [Term.fits, beq_iff_eq] at ht
    subst ht
    split
    · rfl
    · exact isMember_of_isExpression (isExpression_texts (fun s => s) _)

theorem Draft.Fed.fitsAll_sound (h : d.Fed shapes) : ∀ {ts : List Term} {p : Place} {vs : List Value},
    Term.fitsAll shapes p ts = true → Term.valueAll d hs ts = .ok vs → ∀ v ∈ vs, v.fits p = true
  | [], p, vs, _, hvs => by
    cases hvs
    simp
  | t :: ts, p, vs, ht, hvs => by
    simp only [Term.fitsAll, Bool.and_eq_true] at ht
    simp only [Term.valueAll, bind_eq_ok] at hvs
    obtain ⟨v, hv, ws, hws, hvs⟩ := hvs
    cases hvs
    exact List.forall_mem_cons.2 ⟨h.fits_sound ht.1 hv, h.fitsAll_sound ht.2 hws⟩

theorem Draft.Fed.fitsEntries_sound (h : d.Fed shapes) : ∀ {kvs : List (String × Term)} {p : Place}
    {vs : Attributes}, Term.fitsEntries shapes p kvs = true → Term.valueEntries d hs kvs = .ok vs →
    ∀ kv ∈ vs, kv.2.fits p = true
  | [], p, vs, _, hvs => by
    cases hvs
    simp
  | (k, t) :: r, p, vs, ht, hvs => by
    simp only [Term.fitsEntries, Bool.and_eq_true] at ht
    simp only [Term.valueEntries, bind_eq_ok] at hvs
    obtain ⟨v, hv, ws, hws, hvs⟩ := hvs
    cases hvs
    exact List.forall_mem_cons.2 ⟨h.fits_sound ht.1 hv, h.fitsEntries_sound ht.2 hws⟩

theorem Draft.Fed.fitsEntry_sound (h : d.Fed shapes) {key : String}
    {otherwise : Except TemplateFault Value} {p : Place} : ∀ {table : List (String × Term)} {v : Value},
    Term.fitsEntries shapes p table = true → (∀ w, otherwise = .ok w → w.fits p = true) →
    Term.valueEntry d hs key otherwise table = .ok v → v.fits p = true
  | [], v, _, ho, hv => ho v hv
  | (k, t) :: r, v, ht, ho, hv => by
    simp only [Term.fitsEntries, Bool.and_eq_true] at ht
    rw [Term.valueEntry] at hv
    split at hv
    · exact h.fits_sound ht.1 hv
    · exact h.fitsEntry_sound ht.2 ho hv

theorem Draft.Fed.fitsFirst_sound (h : d.Fed shapes) {u : Value} {p : Place} : ∀ {ts : List Term}
    {v : Value}, Term.fitsAll shapes p ts = true → Term.valueFirst d hs u ts = .ok v →
    v.fits p = true
  | [], v, _, hv => by cases hv
  | t :: ts, v, ht, hv => by
    simp only [Term.fitsAll, Bool.and_eq_true] at ht
    exact h.fits_sound ht.1 hv
end

end

/-! ## Steps

A step adds what its terms give, which fits, and leaves what the draft was started from as it is. -/

/-- A draft in which everything made so far can be written. -/
structure Draft.Written (shapes : String → Option Shape) (d : Draft) : Prop
    extends d.Fed shapes where
  resources : ∀ r ∈ d.resources, areMembers r.attributes = true
  outputs : ∀ o ∈ d.outputs, isMember o.value = true

section
variable {shapes : String → Option Shape} {d : Draft}

theorem Draft.Fed.view (h : d.Fed shapes) : d.view.Fed shapes := ⟨h.plain, h.shapes⟩

theorem Draft.Written.takeAll (h : d.Written shapes) (fs : List String) :
    (d.takeAll fs).Written shapes where
  plain := h.plain
  shapes := h.shapes
  resources := h.resources
  outputs := h.outputs

theorem Draft.Written.setPhase (h : d.Written shapes) (phase : String) :
    (d.setPhase phase).Written shapes where
  plain := h.plain
  shapes := h.shapes
  resources := h.resources
  outputs := h.outputs

theorem Draft.Written.add (h : d.Written shapes) {m : Draft.Making}
    (hm : areMembers m.attributes = true) : (d.add m).Written shapes where
  plain := h.plain
  shapes := h.shapes
  resources := by
    intro r hr
    rcases List.mem_append.1 hr with hr | hr
    · exact h.resources r hr
    · rw [List.mem_singleton.1 hr]
      exact areMembers_iff.2 fun kv hkv => areMembers_iff.1 hm kv (List.mem_filter.1 hkv).1
  outputs := h.outputs

theorem Draft.Written.output (h : d.Written shapes) {o : Output} (ho : isMember o.value = true) :
    (d.output o).Written shapes where
  plain := h.plain
  shapes := h.shapes
  resources := h.resources
  outputs := by
    intro o' ho'
    rcases List.mem_append.1 ho' with ho' | ho'
    · exact h.outputs o' ho'
    · rw [List.mem_singleton.1 ho']
      exact ho

/-- **A step that fits keeps a draft written**, whether it succeeds or not. -/
theorem Draft.Written.step (h : d.Written shapes) (hs : Handles) : ∀ {s : Step},
    s.fits shapes = true → ((s.run hs).on d).2.Written shapes
  | .touch t, _ => by
    rw [Step.run_touch_on]
    exact h.takeAll _
  | .add a, hf => by
    rw [Step.run_add_on]
    rcases a.onlyIf.holds d hs with _ | _ | _
    · exact h
    · exact h
    · rw [Addition.run_on]
      cases hvs : Term.valueEntries d.view hs a.attrs with
      | error e => exact h.takeAll _
      | ok vs =>
        exact (h.takeAll _).add (areMembers_iff.2 (h.toFed.view.fitsEntries_sound hf hvs))
  | .output o, hf => by
    rw [Step.run_output_on]
    rcases o.onlyIf.holds d hs with _ | _ | _
    · exact h
    · exact h
    · simp only [Exposure.run_on]
      cases hv : o.value.value d.view hs with
      | error e => exact h.takeAll _
      | ok v => exact (h.takeAll _).output (h.toFed.view.fits_sound hf hv)

/-- So does a run of steps that fit. -/
theorem Draft.Written.steps : ∀ {ss : List Step} {d : Draft}, d.Written shapes →
    ∀ hs : Handles, (∀ s ∈ ss, s.fits shapes = true) → ((runSteps hs ss).on d).2.Written shapes
  | [], _, h, _, _ => h
  | s :: ss, d, h, hs, hf => by
    obtain ⟨hfs, hfss⟩ := List.forall_mem_cons.1 hf
    have hstep := h.step hs hfs
    rw [runSteps_cons_on]
    rcases hrun : (s.run hs).on d with ⟨_ | hs', d'⟩
    · rwa [hrun] at hstep
    · rw [hrun] at hstep
      exact hstep.steps hs' hfss

theorem Draft.Written.apply (h : d.Written shapes) {t : Template} {d' : Draft}
    (hf : t.all (Step.fits shapes) = true) (ht : d.apply t = .ok d') : d'.Written shapes := by
  have hrun : (t.run d).2.Written shapes := h.steps [] (List.all_eq_true.1 hf)
  rwa [Draft.apply_eq_ok.1 ht] at hrun

end

end CloudScaffold
