import CloudScaffold.Proofs.Graph.Faults
/-!
# The order of classes

`Resource.layer` numbers the classes in which resources are listed, and `ordered` puts resources into
buckets by layer (`ordered_eq_buckets`). So a resource comes before another just when its class comes first,
or when it came before it in the same class. Main statement: `check_ordered_iff`. Resources that pass the
check in the order in which they were created still pass it in the order of their classes, just when none of
them refers to a resource of a later class.
-/
namespace CloudScaffold

/-! ## Layers -/

namespace Resource

/-- The place of a resource's class: data sources, dependencies, primary resources. A resource of no class,
which is not listed, is behind them all. -/
def layer (r : Resource) : Nat :=
  if r.isData then 0 else if r.isDependency then 1 else if r.isPrimary then 2 else 3

theorem isData_eq (r : Resource) : r.isData = (r.layer == 0) := by
  unfold layer
  cases r.isData <;> cases r.isDependency <;> cases r.isPrimary <;> rfl

theorem isDependency_eq (r : Resource) : (!r.isData && r.isDependency) = (r.layer == 1) := by
  unfold layer
  cases r.isData <;> cases r.isDependency <;> cases r.isPrimary <;> rfl

theorem isPrimary_eq (r : Resource) : (!r.isData && r.isPrimary) = (r.layer == 2) := by
  unfold layer
  cases hp : r.isPrimary with
  | true => rw [isPrimary_ne_isDependency hp]; cases r.isData <;> rfl
  | false => cases r.isData <;> cases r.isDependency <;> rfl

/-- Resources of the two roles have a class. -/
theorem layer_lt {r : Resource} (h : r.isDependency = true ∨ r.isPrimary = true) : r.layer < 3 := by
  unfold layer
  split
  · decide
  · split
    · decide
    · next hd => rw [if_pos (h.resolve_left hd)]; decide

end Resource

/-- **Resources are ordered by layer.** -/
theorem ordered_eq_buckets (rs : List Resource) : ordered rs = buckets Resource.layer rs 3 := by
  simp only [ordered, Resource.isDependency_eq, Resource.isPrimary_eq]
  simp only [Resource.isData_eq, buckets_succ]
  rfl

section
variable {rs : List Resource}

/-- Resources that all have a class are all listed, and none twice. -/
theorem ordered_perm (h : ∀ r ∈ rs, r.layer < 3) : (ordered rs).Perm rs := by
  have hall : rs.filter (·.layer < 3) = rs :=
    List.filter_eq_self.2 fun r hr => decide_eq_true (h r hr)
  have hperm := buckets_perm Resource.layer rs 3
  rwa [hall, ← ordered_eq_buckets] at hperm

theorem ordered_ordered (rs : List Resource) : ordered (ordered rs) = ordered rs :=
  layered_iff.1 (layered_ordered rs)

/-- What comes before what in the order of the classes. -/
theorem pair_sublist_ordered (h : ∀ r ∈ rs, r.layer < 3) {q r : Resource} (hr : r ∈ rs) :
    [q, r].Sublist (ordered rs) ↔
      q.layer < r.layer ∧ q ∈ rs ∨ q.layer = r.layer ∧ [q, r].Sublist rs := by
  simp only [ordered_eq_buckets, pair_sublist_buckets, h r hr, hr, true_and, and_true]

end

/-! ## References and classes -/

/-- Whether a resource refers to another. -/
def Resource.RefersTo (r q : Resource) : Prop := ∃ p, r.Holds (.ref p) ∧ p.target = q.address

section
variable {rs : List Resource}

/-- References point backwards when what they lead to comes before what holds them. -/
theorem backwards_iff (hd : rs.Pairwise fun q r => q.address ≠ r.address) :
    (∀ pre r post, rs = pre ++ r :: post →
      ∀ p, r.Holds (.ref p) → ∃ q ∈ pre, p.target = q.address) ↔
    ∀ r ∈ rs, ∀ p, r.Holds (.ref p) → ∃ q, [q, r].Sublist rs ∧ p.target = q.address := by
  have hnd : rs.Nodup := hd.imp fun h e => h (congrArg _ e)
  constructor
  · intro h r hr p hp
    obtain ⟨pre, post, rfl⟩ := List.append_of_mem hr
    obtain ⟨q, hq, ht⟩ := h pre r post rfl p hp
    exact ⟨q, (pair_sublist_split hnd).2 hq, ht⟩
  · rintro h pre r post rfl p hp
    obtain ⟨q, hq, ht⟩ := h r (by simp) p hp
    exact ⟨q, (pair_sublist_split hnd).1 hq, ht⟩

/-- Resources of one address are the same. -/
theorem eq_of_address (hd : rs.Pairwise fun q r => q.address ≠ r.address) {q r : Resource} (hq : q ∈ rs)
    (hr : r ∈ rs) (h : q.address = r.address) : q = r := by
  rcases cases_of_pairwise hd hq hr with heq | hne | hne
  · exact heq
  · exact absurd h hne
  · exact absurd h.symm hne

end

/-- **The order of the classes is safe just when references respect it**: resources that pass the check
pass it again once they are ordered, just when none of them refers to one of a later class. -/
theorem check_ordered_iff {g : Graph}
    (hroles : ∀ r ∈ g.resources, r.role = "dependency" ∨ r.role = "primary")
    (hc : g.check = .ok ()) :
    Graph.check { g with resources := ordered g.resources } = .ok () ↔
      ∀ r ∈ g.resources, ∀ q ∈ g.resources, r.layer < q.layer → ¬ r.RefersTo q := by
  have hlayer : ∀ r ∈ g.resources, r.layer < 3 := fun r hr =>
    Resource.layer_lt ((hroles r hr).imp beq_iff_eq.2 beq_iff_eq.2)
  have hperm := ordered_perm hlayer
  obtain ⟨hd, hback, hin, hdecl⟩ :=
    Graph.wellPointed_iff_sound.2 (Graph.check_eq_ok_iff_sound.1 hc)
  have hd' : (ordered g.resources).Pairwise fun q r => q.address ≠ r.address :=
    hperm.symm.pairwise hd fun h => h.symm
  rw [backwards_iff hd] at hback
  rw [Graph.check_eq_ok_iff_sound, ← Graph.wellPointed_iff_sound]
  constructor
  · rintro ⟨-, hback', -, -⟩ r hr q hq hlt ⟨p, hp, hpq⟩
    -- what `r` refers to comes before it, and by its address it is `q`
    obtain ⟨q', hq', ht⟩ := (backwards_iff hd').1 hback' r (hperm.mem_iff.2 hr) p hp
    obtain rfl : q' = q :=
      eq_of_address hd (hperm.mem_iff.1 (hq'.subset (by simp))) hq (ht.symm.trans hpq)
    rcases (pair_sublist_ordered hlayer hr).1 hq' with ⟨hlt', -⟩ | ⟨heq, -⟩ <;> omega
  · intro hresp
    refine ⟨hd', (backwards_iff hd').2 fun r hr p hp => ?_, fun o ho p hp => ?_, fun n hn => ?_⟩
    · have hr := hperm.mem_iff.1 hr
      obtain ⟨q, hqr, ht⟩ := hback r hr p hp
      have hq : q ∈ g.resources := hqr.subset (by simp)
      have hle : ¬ r.layer < q.layer := fun hlt => hresp r hr q hq hlt ⟨p, hp, ht⟩
      refine ⟨q, (pair_sublist_ordered hlayer hr).2 ?_, ht⟩
      rcases Nat.lt_or_eq_of_le (Nat.not_lt.1 hle) with hlt | heq
      · exact .inl ⟨hlt, hq⟩
      · exact .inr ⟨heq, hqr⟩
    · obtain ⟨q, hq, ht⟩ := hin o ho p hp
      exact ⟨q, hperm.mem_iff.2 hq, ht⟩
    · refine hdecl n (hn.imp_left ?_)
      rintro ⟨r, hr, hv⟩
      exact ⟨r, hperm.mem_iff.1 hr, hv⟩

/-- A server in a network, with an image that is looked up. -/
def webServer : Resource where
  type := "aws_instance"
  name := "web"
  role := "primary"
  attributes := [("ami", .ref ⟨"aws_ami", "web_linux", "id", "data"⟩),
    ("tags", .map [("Network", .interp [.str "in-", .ref ⟨"aws_vpc", "web_main", "id", "resource"⟩])])]

/-- A security group with a given source of its rule. -/
def webGroup (source : Reference) : Resource where
  type := "aws_security_group"
  name := "web"
  attributes := [("ingress", .list [.block [("source", .ref source)]])]

/-- The server as it is created: the image in between, the security group last. -/
def guardedServer (source : Reference) : Graph where
  provider := "aws"
  service := "ec2"
  resources :=
    [{ type := "aws_vpc", name := "web_main" },
     { type := "aws_ami", name := "web_linux", mode := "data", role := "primary" },
     webServer, webGroup source]

/-- A group whose rule names the network may be listed before the server; one whose rule names the server
may not. -/
theorem check_ordered_iff_guardedServer :
    let near := guardedServer ⟨"aws_vpc", "web_main", "cidr_block", "resource"⟩
    let far := guardedServer ⟨"aws_instance", "web", "private_ip", "resource"⟩
    (near.check = .ok () ∧ Graph.check { near with resources := ordered near.resources } = .ok () ∧
      ∀ r ∈ near.resources, ∀ q ∈ near.resources, r.layer < q.layer → ¬ r.RefersTo q) ∧
    far.check = .ok () ∧ Graph.check { far with resources := ordered far.resources } ≠ .ok () := by
  intro near far
  have hnear : near.check = .ok () := by decide +kernel
  have hordered : Graph.check { near with resources := ordered near.resources } = .ok () := by
    decide +kernel
  have hfar : far.check = .ok () := by decide +kernel
  have hnearRoles : ∀ r ∈ near.resources, r.role = "dependency" ∨ r.role = "primary" := by decide
  have hfarRoles : ∀ r ∈ far.resources, r.role = "dependency" ∨ r.role = "primary" := by decide
  refine ⟨⟨hnear, hordered, (check_ordered_iff hnearRoles hnear).1 hordered⟩, hfar, fun h => ?_⟩
  have hrefers : (webGroup ⟨"aws_instance", "web", "private_ip", "resource"⟩).RefersTo webServer :=
    ⟨_, ⟨_, List.mem_singleton.2 rfl,
      .item (List.mem_singleton.2 rfl) (.member (List.mem_singleton.2 rfl) (.ref rfl))⟩, by decide +kernel⟩
  exact (check_ordered_iff hfarRoles hfar).1 h _ (by simp [far, guardedServer]) webServer
    (by simp [far, guardedServer]) (by decide) hrefers

end CloudScaffold
