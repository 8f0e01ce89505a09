import CloudScaffold.Hcl.Files
import CloudScaffold.Proofs.Graph.Soundness
import CloudScaffold.Proofs.Hcl.MarkedRender
/-!
# Files point backwards

The files of the resources and of the outputs, written with marks: a file is a list of groups of
lines, and a group that is the block of a resource knows its resource. Main statement:
`written_pointers`. When the graph passes its check, every reference that is written stands behind
the block of its target, and every variable that is written has its block among the variables.
-/
namespace CloudScaffold.Hcl

/-! ## Marked files -/

/-- A group of lines, and the resource whose block it is if it is one. -/
structure Group where
  owner : Option Resource := none
  lines : List Marked

namespace Group

/-- A group as its lines. -/
def text (b : Group) : List String := b.lines.map Marked.text

/-- The pointers that are written in a group. -/
def pointers (b : Group) : List Pointer := b.lines.flatMap Marked.pointers

/-- Whether a group is the block of a resource with an address. -/
def Declares (b : Group) (address : String) : Prop :=
  ∃ r, b.owner = some r ∧ r.address = address ∧ renderResource r = .ok b.text

end Group

/-- Groups as the text of a file. -/
def groupsText (bs : List Group) : String := fileText (bs.map (·.text))

def markBlock (keyword : String) (labels : List String) (attrs : Attributes) :
    Except RenderError (List Marked) := do
  .ok (blockMarked 0 (blockHeader keyword labels) (markedLayout 1 (← markPieces 1 attrs)))

def markResource (r : Resource) : Except RenderError Group := do
  .ok ⟨some r, ← markBlock (if r.isData then "data" else "resource") [r.type, r.name] r.attributes⟩

def markClass (c : String × List Resource) : Except RenderError (List Group) := do
  if c.2.isEmpty then .ok [] else .ok ({ lines := [[.plain ("# " ++ c.1)]] } :: (← c.2.mapM markResource))

/-- The file of the resources. -/
def markMain (g : Graph) : Except RenderError (List Group) := do
  let groups ← (classes g.resources).mapM markClass
  .ok ({ lines := [[.plain ("# Generated for " ++ g.label)]] } :: groups.flatten)

def markOutput (o : Output) : Except RenderError Group := do
  .ok { lines := ← markBlock "output" [o.name] (outputAttributes o) }

/-- The file of the outputs. -/
def markOutputs (os : List Output) : Except RenderError (List Group) := os.mapM markOutput

/-! ## Marks come off -/

theorem markBlock_erase (keyword : String) (labels : List String) (attrs : Attributes) :
    (markBlock keyword labels attrs).map (·.map Marked.text) = renderBlock 0 keyword labels attrs := by
  rw [markBlock, renderBlock, renderBody, ← markPieces_erase]
  cases markPieces 1 attrs with
  | error e => rfl
  | ok ps => simp only [bind, Except.bind, Except.map, text_blockMarked, layout_erase]

theorem markResource_erase (r : Resource) : (markResource r).map Group.text = renderResource r := by
  rw [markResource, renderResource, ← markBlock_erase]
  cases markBlock (if r.isData then "data" else "resource") [r.type, r.name] r.attributes <;> rfl

theorem markOutput_erase (o : Output) :
    (markOutput o).map Group.text = renderBlock 0 "output" [o.name] (outputAttributes o) := by
  rw [markOutput, ← markBlock_erase]
  cases markBlock "output" [o.name] (outputAttributes o) <;> rfl

theorem markClass_erase (c : String × List Resource) :
    (markClass c).map (·.map Group.text) = renderClass c := by
  rw [markClass, renderClass, ← mapM_erase markResource_erase]
  by_cases he : c.2.isEmpty = true
  · simp [he, Except.map]
  · simp only [he, Bool.false_eq_true, if_false]
    cases c.2.mapM markResource <;> simp [bind, Except.bind, Except.map, Group.text, Marked.text]

/-- **The marked file of the resources is the file**, once the marks are off. -/
theorem markMain_erase (g : Graph) : (markMain g).map groupsText = renderMain g := by
  rw [markMain, renderMain, ← mapM_erase markClass_erase]
  cases (classes g.resources).mapM markClass with
  | error e => rfl
  | ok gs =>
    have hg : (fun b : Group => b.text) = Group.text := rfl
    have hhead : Group.text { lines := [[.plain ("# Generated for " ++ g.label)]] } =
        ["# Generated for " ++ g.label] := by simp [Group.text, Marked.text]
    simp only [bind, Except.bind, Except.map, groupsText, hg, List.map_cons, hhead, List.map_flatten]

theorem markOutputs_erase (os : List Output) : (markOutputs os).map groupsText = renderOutputs os := by
  rw [markOutputs, renderOutputs, ← mapM_erase markOutput_erase]
  cases os.mapM markOutput <;> rfl

/-! ## What the groups are -/

/-- A group is either the block of its resource, with the pointers of the resource, or without any. -/
def Group.IsPart (b : Group) : Prop :=
  (b.owner = none ∧ b.pointers = []) ∨
    ∃ r, b.owner = some r ∧ b.pointers = r.refs ∧ renderResource r = .ok b.text

theorem pointers_markBlock {keyword : String} {labels : List String} {attrs : Attributes}
    {ls : List Marked} (h : markBlock keyword labels attrs = .ok ls) :
    ls.flatMap Marked.pointers = Value.refsEntries attrs := by
  rw [markBlock, bind_eq_ok] at h
  obtain ⟨ps, hps, h⟩ := h
  cases h
  rw [pointers_blockMarked, pointers_markedLayout, pointers_markPieces 1 attrs hps]

theorem markResource_spec {r : Resource} {b : Group} (h : markResource r = .ok b) :
    b.owner = some r ∧ b.pointers = r.refs ∧ renderResource r = .ok b.text := by
  have htext := markResource_erase r
  rw [h] at htext
  rw [markResource, bind_eq_ok] at h
  obtain ⟨ls, hls, h⟩ := h
  cases h
  exact ⟨rfl, pointers_markBlock hls, htext.symm⟩

theorem mapM_markResource_spec : ∀ {rs : List Resource} {bs : List Group},
    rs.mapM markResource = .ok bs → bs.filterMap (·.owner) = rs ∧ ∀ b ∈ bs, b.IsPart
  | [], _, h => by cases h; simp
  | r :: rs, _, h => by
    simp only [List.mapM_cons, bind_eq_ok] at h
    obtain ⟨b, hb, bs, hbs, h⟩ := h
    cases h
    obtain ⟨hown, hpart⟩ := mapM_markResource_spec hbs
    have hspec := markResource_spec hb
    refine ⟨by rw [List.filterMap_cons, hspec.1, hown], ?_⟩
    rw [List.forall_mem_cons]
    exact ⟨.inr ⟨r, hspec⟩, hpart⟩

theorem markClass_spec {c : String × List Resource} {bs : List Group} (h : markClass c = .ok bs) :
    bs.filterMap (·.owner) = c.2 ∧ ∀ b ∈ bs, b.IsPart := by
  rw [markClass] at h
  by_cases he : c.2.isEmpty = true
  · rw [if_pos he] at h
    cases h
    rw [List.isEmpty_iff] at he
    simp [he]
  · rw [if_neg he, bind_eq_ok] at h
    obtain ⟨bs, hbs, h⟩ := h
    cases h
    obtain ⟨hown, hpart⟩ := mapM_markResource_spec hbs
    refine ⟨hown, ?_⟩
    rw [List.forall_mem_cons]
    exact ⟨.inl ⟨rfl, rfl⟩, hpart⟩

theorem mapM_markClass_spec : ∀ {cs : List (String × List Resource)} {bss : List (List Group)},
    cs.mapM markClass = .ok bss →
    bss.flatten.filterMap (·.owner) = cs.flatMap (·.2) ∧ ∀ b ∈ bss.flatten, b.IsPart
  | [], _, h => by cases h; simp
  | c :: cs, _, h => by
    simp only [List.mapM_cons, bind_eq_ok] at h
    obtain ⟨bs, hbs, bss, hbss, h⟩ := h
    cases h
    obtain ⟨hown, hpart⟩ := markClass_spec hbs
    obtain ⟨howns, hparts⟩ := mapM_markClass_spec hbss
    rw [List.flatten_cons, List.filterMap_append, List.flatMap_cons, hown, howns]
    refine ⟨rfl, fun b hb => ?_⟩
    exact (List.mem_append.1 hb).elim (hpart b) (hparts b)

/-- The blocks of the file of the resources are those of the resources, as `ordered` lists them. -/
theorem markMain_spec {g : Graph} {bs : List Group} (h : markMain g = .ok bs) :
    bs.filterMap (·.owner) = ordered g.resources ∧ ∀ b ∈ bs, b.IsPart := by
  rw [markMain, bind_eq_ok] at h
  obtain ⟨bss, hbss, h⟩ := h
  cases h
  obtain ⟨hown, hpart⟩ := mapM_markClass_spec hbss
  constructor
  · rw [List.filterMap_cons, hown, flatMap_classes]
  · rw [List.forall_mem_cons]
    exact ⟨.inl ⟨rfl, rfl⟩, hpart⟩

theorem refs_outputAttributes (o : Output) :
    Value.refsEntries (outputAttributes o) = o.value.refs := by
  have ht : (optionalText o.description).refs = [] := by
    unfold optionalText
    split <;> rfl
  have hf : (optionalFlag o.sensitive).refs = [] := by cases o.sensitive <;> rfl
  simp [outputAttributes, Value.refsEntries, ht, hf]

/-- A group of the file of the outputs has the pointers of an output. -/
theorem markOutputs_spec {os : List Output} {bs : List Group} (h : markOutputs os = .ok bs) :
    ∀ b ∈ bs, ∃ o ∈ os, b.pointers = o.value.refs := by
  intro b hb
  obtain ⟨o, hmem, ho⟩ := exists_mem_of_forall₂ (forall₂_of_mapM h) hb
  refine ⟨o, hmem, ?_⟩
  rw [markOutput, bind_eq_ok] at ho
  obtain ⟨ls, hls, ho⟩ := ho
  cases ho
  exact (pointers_markBlock hls).trans (refs_outputAttributes o)

/-- Each variable has its block in the file of the variables. -/
theorem renderVariables_spec {vs : List Variable} {text : String} (h : renderVariables vs = .ok text)
    {v : Variable} (hv : v ∈ vs) : ∃ pre lines post,
      renderBlock 0 "variable" [v.name] (variableAttributes v) = .ok lines ∧
      text = fileText (pre ++ lines :: post) := by
  rw [renderVariables, bind_eq_ok] at h
  obtain ⟨ls, hls, h⟩ := h
  cases h
  obtain ⟨vpre, vpost, heq⟩ := List.append_of_mem hv
  have hall := (forall₂_of_mapM hls).flip
  rw [heq] at hall
  obtain ⟨pre, lines, post, hsplit, _, hlines⟩ := forall₂_split hall
  exact ⟨pre, lines, post, hlines, by rw [hsplit]⟩

/-! ## The main statement -/

/-- Whether everything that the resources file and the outputs file point to is in its place. -/
structure Backed (g : Graph) (groups blocks : List Group) : Prop where
  /-- A reference in the resources file stands behind the block of its target. -/
  behind : ∀ pre b post, groups = pre ++ b :: post → ∀ p, Pointer.ref p ∈ b.pointers →
    ∃ c ∈ pre, c.Declares p.target
  /-- A reference in the outputs file has the block of its target in the resources file. -/
  outputs : ∀ b ∈ blocks, ∀ p, Pointer.ref p ∈ b.pointers → ∃ c ∈ groups, c.Declares p.target
  /-- A variable in either file has its block in the variables file. -/
  declared : ∀ n, (∃ b ∈ groups ++ blocks, Pointer.var n ∈ b.pointers) → ∃ v ∈ g.inputs, v.name = n ∧
    ∀ declarations, renderVariables g.inputs = .ok declarations → ∃ before lines after,
      renderBlock 0 "variable" [n] (variableAttributes v) = .ok lines ∧
      declarations = fileText (before ++ lines :: after)

/-- **References are written behind their targets**, in every graph that passes its check and is in
order, if its files can be written. -/
theorem written_pointers {g : Graph} (hc : g.check = .ok ()) (ho : ordered g.resources = g.resources)
    {main outputs : String} (hm : renderMain g = .ok main)
    (hout : renderOutputs g.outputs = .ok outputs) :
    ∃ groups blocks, markMain g = .ok groups ∧ groupsText groups = main ∧
      markOutputs g.outputs = .ok blocks ∧ groupsText blocks = outputs ∧ Backed g groups blocks := by
  have hsound := Graph.check_eq_ok_iff_sound.1 hc
  rw [← markMain_erase, map_eq_ok] at hm
  rw [← markOutputs_erase, map_eq_ok] at hout
  obtain ⟨groups, hgroups, hm⟩ := hm
  obtain ⟨blocks, hblocks, hout⟩ := hout
  obtain ⟨hown, hpart⟩ := markMain_spec hgroups
  rw [ho] at hown
  have hdecl {bs : List Group} {a : String} (hbs : ∀ b ∈ bs, b.IsPart)
      (ha : a ∈ (bs.filterMap (·.owner)).map (·.address)) : ∃ c ∈ bs, c.Declares a := by
    obtain ⟨r, hr, rfl⟩ := List.mem_map.1 ha
    obtain ⟨c, hc, hcr⟩ := List.mem_filterMap.1 hr
    rcases hbs c hc with ⟨hnone, _⟩ | ⟨r', hr', _, htext⟩
    · simp [hnone] at hcr
    · obtain rfl : r' = r := by simpa [hr'] using hcr
      exact ⟨c, hc, r', hr', rfl, htext⟩
  have hres {b : Group} (hb : b ∈ groups) {p : Pointer} (hp : p ∈ b.pointers) :
      ∃ r ∈ g.resources, b.owner = some r ∧ p ∈ r.refs := by
    rcases hpart b hb with ⟨_, hnil⟩ | ⟨r, hr, hrefs, _⟩
    · simp [hnil] at hp
    · exact ⟨r, hown ▸ List.mem_filterMap.2 ⟨b, hb, hr⟩, hr, hrefs ▸ hp⟩
  refine ⟨groups, blocks, hgroups, hm, hblocks, hout, ⟨?_, ?_, ?_⟩⟩
  · intro pre b post heq p hp
    obtain ⟨r, _, hr, hp⟩ := hres (by simp [heq]) hp
    have hsplit : g.resources = pre.filterMap (·.owner) ++ r :: post.filterMap (·.owner) := by
      rw [← hown, heq, List.filterMap_append, List.filterMap_cons, hr]
    exact hdecl (fun c hc => hpart c (by simp [heq, hc])) (hsound.backwards _ r _ hsplit p hp)
  · intro b hb p hp
    obtain ⟨o, ho, hrefs⟩ := markOutputs_spec hblocks b hb
    refine hdecl hpart ?_
    rw [hown]
    exact hsound.outputs o ho p (hrefs ▸ hp)
  · rintro n ⟨b, hb, hp⟩
    have hmem : n ∈ g.inputs.map (·.name) := by
      refine hsound.declared n ?_
      rcases List.mem_append.1 hb with hb | hb
      · obtain ⟨r, hr, _, hp⟩ := hres hb hp
        exact .inl ⟨r, hr, hp⟩
      · obtain ⟨o, ho, hrefs⟩ := markOutputs_spec hblocks b hb
        exact .inr ⟨o, ho, hrefs ▸ hp⟩
    obtain ⟨v, hv, rfl⟩ := List.mem_map.1 hmem
    exact ⟨v, hv, rfl, fun _ hvars => renderVariables_spec hvars hv⟩

/-- A database in a network, with pointers at several depths. -/
def networkedDatabase : Graph where
  provider := "aws"
  service := "rds"
  resources :=
    [{ type := "aws_vpc", name := "main", attributes := [("cidr_block", .str "10.0.0.0/16")] },
     { type := "aws_db_instance", name := "main", role := "primary"
       attributes :=
         [("password", .var "password"),
          ("identifier", .interp [.str "db-", .ref ⟨"aws_vpc", "main", "id", "resource"⟩]),
          ("timeouts", .list [.block [("create", .ref ⟨"aws_vpc", "main", "wait", "resource"⟩)]])] }]
  inputs := [{ name := "password", sensitive := true }]
  outputs := [{ name := "endpoint", value := .ref ⟨"aws_db_instance", "main", "endpoint", "resource"⟩ }]

theorem written_pointers_networkedDatabase : ∃ main outputs groups blocks,
    renderMain networkedDatabase = .ok main ∧ renderOutputs networkedDatabase.outputs = .ok outputs ∧
      markMain networkedDatabase = .ok groups ∧ groupsText groups = main ∧
      markOutputs networkedDatabase.outputs = .ok blocks ∧ groupsText blocks = outputs ∧
      Backed networkedDatabase groups blocks := by
  have hc : networkedDatabase.check = .ok () := by decide +kernel
  have ho : ordered networkedDatabase.resources = networkedDatabase.resources := rfl
  obtain ⟨main, hm⟩ : ∃ main, renderMain networkedDatabase = .ok main := ⟨_, rfl⟩
  obtain ⟨outputs, hout⟩ : ∃ outputs, renderOutputs networkedDatabase.outputs = .ok outputs := ⟨_, rfl⟩
  obtain ⟨groups, blocks, h⟩ := written_pointers hc ho hm hout
  exact ⟨main, outputs, groups, blocks, hm, hout, h⟩

end CloudScaffold.Hcl
