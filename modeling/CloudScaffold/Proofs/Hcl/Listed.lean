import CloudScaffold.Proofs.Graph.Order
import CloudScaffold.Proofs.Hcl.Writable
/-!
# Resources as they are listed

The file of the resources is a list of groups of lines, some of which open blocks (`opensBlock`); the others
are comments of one line. The file goes through the classes on its own, by their titles, and leaves out a
class without resources. Main statement: `renderMain_blocks`. All the same its blocks are those of the
resources that `ordered` lists, one each and in that order.
-/
namespace CloudScaffold.Hcl

/-! ## Blocks and comments -/

/-- The keyword of a resource's block. -/
def keyword (r : Resource) : String := if r.mode = "data" then "data" else "resource"

/-- Whether some lines are the block of a resource: its keyword, type and name, and its attributes between
braces. -/
def IsBlockOf (r : Resource) (ls : List String) : Prop :=
  ∃ body, renderBody 1 r.attributes = .ok body ∧
    ls = blockLines 0 (blockHeader (keyword r) [r.type, r.name]) body

/-- Whether a group of lines opens with one of the words for resources. -/
def opensBlock (ls : List String) : Bool :=
  ["data ", "resource "].any fun w => ls.head?.any fun l => w.toList.isPrefixOf l.toList

/-- A comment of one line. -/
def comment (text : String) : List String := ["# " ++ text]

theorem renderResource_eq_ok {r : Resource} {ls : List String} :
    renderResource r = .ok ls ↔ IsBlockOf r ls := by
  have hk : (if r.isData then "data" else "resource") = keyword r := by
    simp only [keyword, Resource.isData, beq_iff_eq]
  rw [renderResource, renderBlock, hk, bind_eq_ok, IsBlockOf]
  simp only [Except.ok.injEq, eq_comm (a := ls)]

theorem opensBlock_of_isBlockOf {r : Resource} {ls : List String} (h : IsBlockOf r ls) :
    opensBlock ls = true := by
  obtain ⟨body, -, rfl⟩ := h
  have hword : keyword r ++ " " ∈ ["data ", "resource "] := by
    unfold keyword
    split <;> simp
  have hline : (keyword r ++ " ").toList <+: (indent 0 ++ blockHeader (keyword r) [r.type, r.name] ++
      " \x7b").toList := by
    refine ⟨(quote r.type ++ " " ++ quote r.name ++ " \x7b").toList, ?_⟩
    simp [blockHeader, indent]
  refine List.any_eq_true.2 ⟨_, hword, ?_⟩
  simpa [blockLines] using hline

theorem opensBlock_comment (text : String) : opensBlock (comment text) = false := by
  simp only [opensBlock, comment, List.head?_cons, Option.any_some, String.toList_append]
  rfl

theorem filter_comment (text : String) (groups : List (List String)) :
    (comment text :: groups).filter opensBlock = groups.filter opensBlock :=
  List.filter_cons_of_neg (by rw [opensBlock_comment]; decide)

theorem filter_opensBlock {rs : List Resource} {blocks : List (List String)}
    (h : List.Forall₂ IsBlockOf rs blocks) : blocks.filter opensBlock = blocks := by
  induction h with
  | nil => rfl
  | cons hb _ ih => rw [List.filter_cons_of_pos (opensBlock_of_isBlockOf hb), ih]

/-! ## The file -/

/-- A class is written as the blocks of its resources, under a comment. -/
theorem renderClass_spec {c : String × List Resource} {groups : List (List String)}
    (h : renderClass c = .ok groups) : List.Forall₂ IsBlockOf c.2 (groups.filter opensBlock) ∧
      ∀ ls ∈ groups, opensBlock ls = false → ls = comment c.1 := by
  rw [renderClass] at h
  by_cases he : c.2.isEmpty = true
  · rw [if_pos he] at h
    cases h
    rw [List.isEmpty_iff.1 he]
    exact ⟨.nil, by simp⟩
  · rw [if_neg he, bind_eq_ok] at h
    obtain ⟨blocks, hblocks, h⟩ := h
    cases h
    have hall : List.Forall₂ IsBlockOf c.2 blocks :=
      (forall₂_of_mapM hblocks).imp fun _ _ => renderResource_eq_ok.1
    have hfilter := filter_opensBlock hall
    constructor
    · rw [← comment, filter_comment, hfilter]
      exact hall
    · refine List.forall_mem_cons.2 ⟨fun _ => rfl, fun ls hls hno => ?_⟩
      rw [← hfilter] at hls
      simp [hno] at hls

theorem mapM_renderClass_spec : ∀ {cs : List (String × List Resource)}
    {groupss : List (List (List String))}, cs.mapM renderClass = .ok groupss →
    List.Forall₂ IsBlockOf (cs.flatMap (·.2)) (groupss.flatten.filter opensBlock) ∧
      ∀ ls ∈ groupss.flatten, opensBlock ls = false → ls ∈ cs.map (comment ·.1)
  | [], _, h => by cases h; exact ⟨.nil, by simp⟩
  | c :: cs, _, h => by
    simp only [List.mapM_cons, bind_eq_ok] at h
    obtain ⟨groups, hgroups, groupss, hgroupss, h⟩ := h
    cases h
    obtain ⟨hblocks, hcomment⟩ := renderClass_spec hgroups
    obtain ⟨hrest, hcomments⟩ := mapM_renderClass_spec hgroupss
    rw [List.flatMap_cons, List.flatten_cons, List.filter_append, List.map_cons]
    refine ⟨List.rel_append hblocks hrest, fun ls hls hno => ?_⟩
    rcases List.mem_append.1 hls with hls | hls
    · exact List.mem_cons.2 (.inl (hcomment ls hls hno))
    · exact List.mem_cons_of_mem _ (hcomments ls hls hno)

/-- The comments of the file of the resources. -/
def comments (g : Graph) : List (List String) :=
  comment ("Generated for " ++ g.label) :: (classes g.resources).map (comment ·.1)

/-- **The blocks of the file are the resources as they are listed**, whatever their modes and roles, if
the attributes of those that are listed can be written: all else in the file is comments. If every role is
that of a dependency or of a primary resource, then nothing is lost and nothing is written twice; and
resources that are listed in order stay as they are. -/
theorem renderMain_blocks {g : Graph}
    (h : ∀ r ∈ ordered g.resources, ∃ body, renderBody 1 r.attributes = .ok body) :
    (∃ groups, renderMain g = .ok (fileText groups) ∧
      List.Forall₂ IsBlockOf (ordered g.resources) (groups.filter opensBlock) ∧
      ∀ ls ∈ groups, opensBlock ls = false → ls ∈ comments g) ∧
    ((∀ r ∈ g.resources, r.role = "dependency" ∨ r.role = "primary") →
      (ordered g.resources).Perm g.resources) ∧
    ordered (ordered g.resources) = ordered g.resources := by
  have hperm (hroles : ∀ r ∈ g.resources, r.role = "dependency" ∨ r.role = "primary") :
      (ordered g.resources).Perm g.resources :=
    ordered_perm fun r hr => Resource.layer_lt ((hroles r hr).imp beq_iff_eq.2 beq_iff_eq.2)
  refine ⟨?_, hperm, ordered_ordered g.resources⟩
  have hok : ∀ r ∈ ordered g.resources, areMembers r.attributes = true := by
    intro r hr
    rw [← renderPieces_isOk 1, ← isOk_bind_ok (renderPieces 1 r.attributes) (layout 1)]
    exact isOk_iff.2 (h r hr)
  obtain ⟨text, htext⟩ := isOk_iff.1 (renderMain_isOk hok)
  rw [htext]
  rw [renderMain, bind_eq_ok] at htext
  obtain ⟨groupss, hgroupss, htext⟩ := htext
  cases htext
  obtain ⟨hblocks, hcomments⟩ := mapM_renderClass_spec hgroupss
  rw [flatMap_classes] at hblocks
  have htitle : ["# Generated for " ++ g.label] = comment ("Generated for " ++ g.label) := by
    rw [comment, ← String.append_assoc]
    rfl
  rw [htitle]
  refine ⟨_, rfl, ?_, List.forall_mem_cons.2 ⟨fun _ => List.mem_cons_self, fun ls hls hno => ?_⟩⟩
  · rw [filter_comment]
    exact hblocks
  · exact List.mem_cons_of_mem _ (hcomments ls hls hno)

/-- A database that is created before what it depends on, with a lookup in the role of a primary resource and
a copy that has a role of its own and attributes that cannot be written. -/
def stagedDatabase : Graph where
  provider := "aws"
  service := "rds"
  resources :=
    [{ type := "aws_db_instance", name := "orders", role := "primary"
       attributes := [("engine", .str "postgres"), ("timeouts", .block [("create", .str "60m")])] },
     { type := "aws_db_subnet_group", name := "orders" },
     { type := "aws_db_instance", name := "orders_copy", role := "replica"
       attributes := [("engine", .list [.null])] },
     { type := "aws_availability_zones", name := "orders", mode := "data", role := "primary"
       attributes := [("state", .str "available")] }]

theorem renderMain_blocks_stagedDatabase :
    (ordered stagedDatabase.resources).map (·.address) =
      ["data.aws_availability_zones.orders", "aws_db_subnet_group.orders", "aws_db_instance.orders"] ∧
    (∀ r ∈ ordered stagedDatabase.resources, ∃ body, renderBody 1 r.attributes = .ok body) ∧
    ∃ groups, renderMain stagedDatabase = .ok (fileText groups) ∧
      List.Forall₂ IsBlockOf (ordered stagedDatabase.resources) (groups.filter opensBlock) ∧
      ∀ ls ∈ groups, opensBlock ls = false → ls ∈ comments stagedDatabase := by
  have hok : ∀ r ∈ ordered stagedDatabase.resources, (renderBody 1 r.attributes).isOk = true := by
    decide +kernel
  have h : ∀ r ∈ ordered stagedDatabase.resources, ∃ body, renderBody 1 r.attributes = .ok body :=
    fun r hr => isOk_iff.1 (hok r hr)
  exact ⟨by decide +kernel, h, (renderMain_blocks h).1⟩

end CloudScaffold.Hcl
