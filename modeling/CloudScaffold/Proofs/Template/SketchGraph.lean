import CloudScaffold.Proofs.Lists
import CloudScaffold.Proofs.Template.SketchRun
import Mathlib.Data.List.Nodup
/-!
# Sound sketches make sound graphs

The last step from a sketch to the graph of a service. Addresses are kept apart by their keys
(`Key.address_inj`), the order of the resources is that of the nodes (`Depicts.listed`), and pointing
backwards carries over from nodes to resources. Main statement: `Depicts.graph_sound`.
-/
namespace CloudScaffold

/-! ## Addresses -/

theorem nameUnder_inj {base r₁ r₂ : String} (h : nameUnder base r₁ = nameUnder base r₂) : r₁ = r₂ := by
  unfold nameUnder at h
  split at h
  · exact h
  · simpa using h

/-- Texts that agree around a first point agree before it and behind it. -/
theorem split_at_point {xs ys : List Char} : ∀ {as bs : List Char}, '.' ∉ as → '.' ∉ bs →
    as ++ '.' :: xs = bs ++ '.' :: ys → as = bs ∧ xs = ys
  | [], [], _, _, h => ⟨rfl, (List.cons.inj h).2⟩
  | a :: as, b :: bs, ha, hb, h => by
    obtain ⟨hab, h⟩ := List.cons.inj h
    obtain ⟨hs, hx⟩ := split_at_point (fun hm => ha (by simp [hm])) (fun hm => hb (by simp [hm])) h
    exact ⟨by rw [hab, hs], hx⟩
  | [], b :: bs, _, hb, h => absurd (by rw [(List.cons.inj h).1]; simp) hb
  | a :: as, [], ha, _, h => absurd (by rw [(List.cons.inj h).1]; simp) ha

theorem not_mem_of_hasPoint {s : String} (h : hasPoint s = false) : '.' ∉ s.toList := by
  intro hm
  have hbyte : (46 : UInt8) ∈ s.toList.flatMap String.utf8EncodeChar :=
    List.mem_flatMap.2 ⟨'.', hm, by decide⟩
  have hb : s.toByteArray.data.toList = s.toList.flatMap String.utf8EncodeChar := by
    rw [← String.utf8Encode_toList, List.utf8Encode, List.data_toByteArray]
  rw [hasPoint, hb] at h
  simp [hbyte] at h

namespace Key

theorem proper_of_isProper {k : Key} (h : k.isProper = true) :
    '.' ∉ k.type.toList ∧ k.type ≠ "data" := by
  simp only [isProper, Bool.and_eq_true, Bool.not_eq_true', bne_iff_ne] at h
  exact ⟨not_mem_of_hasPoint h.1, h.2⟩

/-- The word that an address starts with, up to its first point, and the rest. -/
theorem address_toList (base : String) (k : Key) : (k.address base).toList =
    (if k.data then "data".toList ++ ['.'] else []) ++ k.type.toList ++
      '.' :: (nameUnder base k.role).toList := by
  unfold address addressOf mode
  cases k.data <;> simp [String.toList_append]

/-- **Addresses tell keys apart** under one base. -/
theorem address_inj {base : String} {k₁ k₂ : Key} (h₁ : k₁.isProper = true) (h₂ : k₂.isProper = true)
    (h : k₁.address base = k₂.address base) : k₁ = k₂ := by
  obtain ⟨hp₁, hd₁⟩ := proper_of_isProper h₁
  obtain ⟨hp₂, hd₂⟩ := proper_of_isProper h₂
  have hdata : '.' ∉ "data".toList := by decide
  have hl := congrArg String.toList h
  rw [address_toList, address_toList] at hl
  have same (a b : List Char) (hl : k₁.type.toList ++ '.' :: a = k₂.type.toList ++ '.' :: b) :
      k₁.type = k₂.type ∧ a = b := by
    obtain ⟨ht, hr⟩ := split_at_point hp₁ hp₂ hl
    exact ⟨String.toList_inj.1 ht, hr⟩
  obtain ⟨d₁, t₁, r₁⟩ := k₁
  obtain ⟨d₂, t₂, r₂⟩ := k₂
  cases d₁ <;> cases d₂ <;>
    simp only [Bool.false_eq_true, if_false, if_true, List.nil_append, List.append_assoc,
      List.cons_append, List.append_cancel_left_eq, List.cons.injEq,
      true_and] at hl
  · obtain ⟨ht, hr⟩ := same _ _ hl
    simp only at ht
    rw [ht, nameUnder_inj (String.toList_inj.1 hr)]
  · obtain ⟨ht, -⟩ := split_at_point hp₁ hdata hl
    exact absurd (String.toList_inj.1 ht) hd₁
  · obtain ⟨ht, -⟩ := split_at_point hdata hp₂ hl
    exact absurd (String.toList_inj.1 ht).symm hd₂
  · obtain ⟨ht, hr⟩ := same _ _ hl
    simp only at ht
    rw [ht, nameUnder_inj (String.toList_inj.1 hr)]

end Key

/-! ## Nodes and resources in order -/

namespace Sketch

/-- What a sketch lists for a node is found before the node. -/
theorem pointsBack_spec : ∀ {before : List Key} {ns : List Node}, pointsBack before ns = true →
    ∀ {pre : List Node} {n : Node} {post : List Node}, ns = pre ++ n :: post →
    ∀ key ∈ n.points, key ∈ before ++ pre.map (·.key)
  | before, m :: ns, h, pre, n, post, heq, key, hk => by
    simp only [pointsBack, Bool.and_eq_true, List.all_eq_true, List.contains_iff_mem] at h
    cases pre with
    | nil =>
      obtain ⟨rfl, rfl⟩ := List.cons.inj heq
      simpa using h.1 key hk
    | cons a pre =>
      obtain ⟨rfl, rfl⟩ := List.cons.inj heq
      simpa using pointsBack_spec h.2 rfl key hk
  | _, [], _, pre, n, post, heq, _, _ => by simp at heq

section
variable {G : List String} {k : Sketch} {d : Draft} {hs : Handles}

/-- The resources in order are depicted by the nodes as they are listed. -/
theorem Depicts.listed (h : k.Depicts G d hs) :
    List.Forall₂ (Node.Depicts d.base G (· ∈ d.inputNames)) k.listed (ordered d.resources) := by
  have hdata {n : Node} {r : Resource} (hn : n.Depicts d.base G (· ∈ d.inputNames) r) :
      r.isData = n.key.data := hn.names.isData_eq
  have hprim {n : Node} {r : Resource} (hn : n.Depicts d.base G (· ∈ d.inputNames) r) :
      r.isPrimary = n.primary ∧ r.isDependency = !n.primary := by
    rw [Resource.isPrimary, Resource.isDependency, hn.role]
    cases n.primary <;> exact ⟨rfl, rfl⟩
  refine List.rel_append (List.rel_append ?_ ?_) ?_
  · exact List.rel_filter (fun _ _ hn => by simp only [hdata hn]) h.resources
  · exact List.rel_filter (fun _ _ hn => by simp only [hdata hn, (hprim hn).2]) h.resources
  · exact List.rel_filter (fun _ _ hn => by simp only [hdata hn, (hprim hn).1]) h.resources

/-- Depicted resources have the addresses of their keys. -/
theorem addresses_of_depicts {base : String} {D : String → Prop} {ns : List Node} {rs : List Resource}
    (h : List.Forall₂ (Node.Depicts base G D) ns rs) :
    rs.map (·.address) = (ns.map (·.key)).map (·.address base) := by
  induction h with
  | nil => rfl
  | cons hn _ ih => simp [hn.names.address_eq, ih]

/-- Depicted resources have different addresses and point backwards, if their nodes do. -/
theorem backward_of_depicts {base : String} {D : String → Prop} {ns : List Node} {rs : List Resource}
    (h : List.Forall₂ (Node.Depicts base G D) ns rs) (hproper : (ns.map (·.key)).all (·.isProper) = true)
    (hkeys : (ns.map (·.key)).Nodup) (hback : pointsBack [] ns = true) :
    (rs.map (·.address)).Nodup ∧ ∀ pre r post, rs = pre ++ r :: post →
      ∀ p, Pointer.ref p ∈ r.refs → p.target ∈ pre.map (·.address) := by
  constructor
  · -- distinct keys give distinct addresses
    rw [addresses_of_depicts h]
    refine List.Nodup.map_on (fun k₁ h₁ k₂ h₂ heq => ?_) hkeys
    exact Key.address_inj (List.all_eq_true.1 hproper _ h₁) (List.all_eq_true.1 hproper _ h₂) heq
  · rintro pre r post rfl p hp
    obtain ⟨ms, n, _, hsplit, hpre, hn⟩ := forall₂_split h
    obtain ⟨key, hk, ht⟩ := hn.points _ hp
    have hmem := pointsBack_spec hback hsplit key hk
    rw [ht, addresses_of_depicts hpre]
    exact List.mem_map_of_mem hmem

/-- **A sound sketch makes a sound graph**, with variables of different names and a primary resource.
The variables of the contract must not be sensitive fields. -/
theorem Depicts.graph_sound {c : Contract} (h : k.Depicts (c.inputs.map (·.name)) d hs)
    (hs : k.isSound = true) (hnd : (c.inputs.map (·.name)).Nodup)
    (hfree : ∀ n ∈ c.inputs.map (·.name), d.service.isSensitive n = false) :
    (Registry.graphOf c d).Sound ∧ Layered (Registry.graphOf c d).resources ∧
      ((Registry.graphOf c d).inputs.map (·.name)).Nodup ∧ (Registry.graphOf c d).primaries ≠ [] := by
  simp only [Sketch.isSound, Bool.and_eq_true, decide_eq_true_eq] at hs
  obtain ⟨⟨⟨⟨hproper, hkeys⟩, hback⟩, houts⟩, hprim⟩ := hs
  have hlisted := h.listed
  have hnames : (Registry.graphOf c d).inputs.map (·.name) = c.inputs.map (·.name) ++ d.inputNames := by
    simp [Registry.graphOf, Contract.declarations, Draft.inputNames, Function.comp_def]
  have haddr : (Registry.graphOf c d).addresses = (k.listed.map (·.key)).map (·.address d.base) :=
    addresses_of_depicts hlisted
  have hvar {ps : List Key} {n : String}
      (hp : (Pointer.var n).Within d.base (c.inputs.map (·.name)) ps (· ∈ d.inputNames)) :
      n ∈ (Registry.graphOf c d).inputs.map (·.name) := by
    rw [hnames, List.mem_append]
    exact hp
  obtain ⟨hdistinct, hpoints⟩ := backward_of_depicts hlisted hproper hkeys hback
  refine ⟨⟨hdistinct, hpoints, ?_, ?_⟩, ?_, ?_, ?_⟩
  · intro o ho p hp
    obtain ⟨ps, hps, hexp⟩ := exists_mem_of_forall₂ h.outputs ho
    obtain ⟨key, hk, ht⟩ := hexp _ hp
    have hmem := List.all_eq_true.1 (List.all_eq_true.1 houts ps hps) key hk
    rw [ht, haddr]
    exact List.mem_map_of_mem (by simpa using hmem)
  · rintro n (⟨r, hr, hp⟩ | ⟨o, ho, hp⟩)
    · obtain ⟨m, -, hn⟩ := exists_mem_of_forall₂ hlisted hr
      exact hvar (hn.points _ hp)
    · obtain ⟨ps, -, hexp⟩ := exists_mem_of_forall₂ h.outputs ho
      exact hvar (hexp _ hp)
  · exact layered_ordered d.resources
  · rw [hnames, List.nodup_append]
    refine ⟨hnd, h.nodup, fun a ha b hb hab => ?_⟩
    obtain ⟨v, hv, hvn⟩ := List.mem_map.1 hb
    have := h.sensitive v hv
    rw [hvn, ← hab, hfree a ha] at this
    cases this
  · -- the primary node of the sketch has its resource
    obtain ⟨n, hn, hn'⟩ := List.any_eq_true.1 hprim
    simp only [Bool.and_eq_true, Bool.not_eq_true'] at hn'
    have hmem : n ∈ k.listed := by
      simp [Sketch.listed, hn, hn'.1, hn'.2]
    obtain ⟨r, hlist, hr⟩ := exists_mem_of_forall₂ hlisted.flip hmem
    have hr : n.Depicts d.base _ _ r := hr
    intro hnil
    have := List.filter_eq_nil_iff.1 hnil r hlist
    simp [Resource.isPrimary, hr.role, hn'.2] at this

end

end Sketch

end CloudScaffold
