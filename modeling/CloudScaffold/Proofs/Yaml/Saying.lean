import CloudScaffold.Proofs.Yaml.Line
import CloudScaffold.Yaml.Datum
/-!
# What a line says

The data of a line are settled by its two scalars: a line says one entry, whose key and value are what
the name and the word say by their tags (`lineEntry`), and it has a fault where one of them has
(`ofDocument_line`). No key can get in the way but that of a default value. A name that merges stands for
no mapping here, which is the fault that its own text has as well (`resolveMerges_merge`).
-/
namespace CloudScaffold.Yaml

open Text

section
variable {ns : Nodes} {n : NodeId} {tag : Tag} {text : Points}

theorem tagOfPlain_mem (text : Points) : tagOfPlain text ∈ forms.map (·.1) ++ [.str] := by
  simp only [tagOfPlain]
  split
  · next f hf =>
    exact List.mem_append_left _ (List.mem_map.2 ⟨f, List.mem_of_find?_eq_some hf, rfl⟩)
  · simp

theorem isCollective_tagOfPlain (text : Points) : (tagOfPlain text).isCollective = false := by
  have hall : ∀ t ∈ forms.map (·.1) ++ [Tag.str], t.isCollective = false := by decide
  exact hall _ (tagOfPlain_mem text)

/-- The atom of a scalar node is what its text says by its tag. -/
theorem atomOf_scalar (h : ns.node n = ⟨tag, .scalar text⟩) : atomOf ns n = Atom.ofText tag n text := by
  have htext : textOf ns (ns.size + 1) n = .ok text := by rw [textOf, h]
  simp only [atomOf, h, htext]
  cases tag <;> rfl

theorem run_datumOf_scalar {b : Building} (hknown : (b.known[n]?).join = none)
    (hnode : b.nodes.node n = ⟨tag, .scalar text⟩) (htag : tag.isCollective = false) :
    (datumOf n).run b = (Atom.ofText tag n text).map fun a =>
      (.atom a, { b with known := b.known.setIfInBounds n (some (.atom a)) }) := by
  have hatom := atomOf_scalar hnode
  simp only [datumOf, StateT.run_bind, StateT.run_get, pure_bind, hknown, hnode, htag, hatom]
  cases Atom.ofText tag n text <;> rfl

end

section
variable {name word : List Char}

theorem entries_lineNodes (es : List Entry) : (lineNodes es name word).entries 0 = es := rfl

theorem resolveMerges_line (hvalue : tagOfPlain (.ofChars name) ≠ .value)
    (hmerge : tagOfPlain (.ofChars name) ≠ .merge) :
    resolveMerges (lineNodes [(1, 2)] name word) 0 = .ok (lineNodes [(1, 2)] name word) := by
  have hsplit : splitMerge (lineNodes [(1, 2)] name word) [(1, 2)] = none :=
    splitMerge_eq_none_iff.2 fun e he => by
      obtain rfl := List.mem_singleton.1 he
      exact hmerge
  have hsettle : settle (lineNodes [(1, 2)] name word) 0 [] = lineNodes [(1, 2)] name word := by
    have hplain : plainKey (lineNodes [(1, 2)] name word) 1 = lineNodes [(1, 2)] name word :=
      if_neg hvalue
    show (plainKey (lineNodes [(1, 2)] name word) 1).setContent 0 _ = _
    rw [hplain]
    rfl
  have hcount : (lineNodes [(1, 2)] name word).entryCount = 1 := rfl
  have hresolve : (resolve 6 [] 0).run (lineNodes [(1, 2)] name word) =
      .ok ((), lineNodes [(1, 2)] name word) := by
    have hget : (get : Merging Nodes).run (lineNodes [(1, 2)] name word) =
      .ok (lineNodes [(1, 2)] name word, lineNodes [(1, 2)] name word) := rfl
    rw [resolve, run_bind hget]
    simp only [entries_lineNodes, hsplit, hsettle]
    rfl
  rw [resolveMerges, hcount, hresolve]
  rfl

/-- A key that merges takes no scalar. -/
theorem resolveMerges_merge (hmerge : tagOfPlain (.ofChars name) = .merge) :
    resolveMerges (lineNodes [(1, 2)] name word) 0 = .error .content := by
  have hsplit : splitMerge (lineNodes [(1, 2)] name word) [(1, 2)] = some ([], 2, []) := if_pos hmerge
  have hcount : (lineNodes [(1, 2)] name word).entryCount = 1 := rfl
  have hresolve : (resolve 6 [] 0).run (lineNodes [(1, 2)] name word) = .error .content := by
    have hget : (get : Merging Nodes).run (lineNodes [(1, 2)] name word) =
      .ok (lineNodes [(1, 2)] name word, lineNodes [(1, 2)] name word) := rfl
    rw [resolve, run_bind hget]
    simp only [entries_lineNodes, hsplit]
    rfl
  rw [resolveMerges, hcount, hresolve]
  rfl

/-- What is known of a line when the entries of its mapping are next, and the atoms of its scalars. -/
def lineBuilding (name word : List Char) (known : Option Datum × Option Datum) : Building where
  nodes := lineNodes [(1, 2)] name word
  known := #[some (.shared 0), known.1, known.2]
  collections := #[.list [], .list [], .list []]

/-- The only entry of a line. -/
def lineEntry (name word : List Char) : Except Fault (Atom × Atom) := do
  let k ← Atom.ofText (tagOfPlain (.ofChars name)) 1 (.ofChars name)
  let v ← Atom.ofText (tagOfPlain (.ofChars word)) 2 (.ofChars word)
  .ok (k, v)

theorem lineEntry_eq_ok_iff {k v : Atom} : lineEntry name word = .ok (k, v) ↔
    Atom.ofText (tagOfPlain (.ofChars name)) 1 (.ofChars name) = .ok k ∧
      Atom.ofText (tagOfPlain (.ofChars word)) 2 (.ofChars word) = .ok v := by
  unfold lineEntry
  cases Atom.ofText (tagOfPlain (.ofChars name)) 1 (.ofChars name) with
  | error e => simp [bind, Except.bind]
  | ok a => cases Atom.ofText (tagOfPlain (.ofChars word)) 2 (.ofChars word) <;> simp [bind, Except.bind]

theorem run_addEntry_line : (addEntry [] (1, 2)).run (lineBuilding name word (none, none)) =
    (lineEntry name word).map fun e =>
      ([(e.1, .atom e.2)], lineBuilding name word (some (.atom e.1), some (.atom e.2))) := by
  have hkey := run_datumOf_scalar (b := lineBuilding name word (none, none)) (n := 1) rfl rfl
    (isCollective_tagOfPlain _)
  rw [addEntry, lineEntry]
  cases hk : Atom.ofText (tagOfPlain (.ofChars name)) 1 (.ofChars name) with
  | error e =>
    rw [hk] at hkey
    rw [run_bind_error hkey]
    rfl
  | ok k =>
    have hvalue := run_datumOf_scalar (b := lineBuilding name word (some (.atom k), none)) (n := 2) rfl rfl
      (isCollective_tagOfPlain _)
    rw [hk] at hkey
    rw [run_bind hkey]
    cases hv : Atom.ofText (tagOfPlain (.ofChars word)) 2 (.ofChars word) with
    | error e =>
      rw [hv] at hvalue
      exact run_bind_error hvalue
    | ok v =>
      rw [hv] at hvalue
      exact run_bind hvalue

theorem run_entriesOf_line (hname : tagOfPlain (.ofChars name) ≠ .value) :
    (entriesOf 0).run (lineBuilding name word (none, none)) = (lineEntry name word).map fun e =>
      ([(e.1, .atom e.2)], lineBuilding name word (some (.atom e.1), some (.atom e.2))) := by
  let b := lineBuilding name word (none, none)
  have hget : (get : Build Building).run b = .ok (b, b) := rfl
  rw [entriesOf]
  refine (run_bind hget).trans ?_
  by_cases hmerge : tagOfPlain (.ofChars name) = .merge
  · have hfault : (liftM (resolveMerges (lineNodes [(1, 2)] name word) 0) : Build Nodes).run b =
        .error .content := by
      rw [resolveMerges_merge hmerge]
      rfl
    rw [lineEntry, hmerge]
    exact run_bind_error hfault
  · have hplain : (liftM (resolveMerges (lineNodes [(1, 2)] name word) 0) : Build Nodes).run b =
        .ok (lineNodes [(1, 2)] name word, b) := by
      rw [resolveMerges_line hname hmerge]
      rfl
    have hsame : (modify fun b => { b with nodes := lineNodes [(1, 2)] name word } : Build Unit).run b =
      .ok ((), b) := rfl
    refine (run_bind hplain).trans ((run_bind hsame).trans ?_)
    rw [← run_addEntry_line, entries_lineNodes, List.foldlM_cons]
    simp only [List.foldlM_nil, bind_pure]
    rfl

theorem run_buildAll_line (hname : tagOfPlain (.ofChars name) ≠ .value) :
    (buildAll 3 [0]).run (lineBuilding name word (none, none)) = (lineEntry name word).map fun e =>
      ((), { lineBuilding name word (some (.atom e.1), some (.atom e.2)) with
        collections := #[.map [(e.1, .atom e.2)], .list [], .list []] }) := by
  have hentries : (entriesOf 0).run (lineBuilding name word (none, none)) = _ := run_entriesOf_line hname
  have hmap : (collectionOf 0).run (lineBuilding name word (none, none)) =
      (do pure (.map (← entriesOf 0)) : Build Collection).run (lineBuilding name word (none, none)) := rfl
  rw [buildAll]
  cases he : lineEntry name word with
  | error e =>
    rw [he] at hentries
    exact run_bind_error (hmap.trans (run_bind_error hentries))
  | ok e =>
    rw [he] at hentries
    exact run_bind (hmap.trans (run_bind hentries))

/-- A document says its root, and the collections that are met from there on. -/
theorem ofDocument_eq (d : Document) : Data.ofDocument d = (do
    let r ← (datumOf d.root).run {
      nodes := d.nodes, known := Array.replicate d.nodes.size none
      collections := Array.replicate d.nodes.size (.list []) }
    let b ← (buildAll d.nodes.size r.2.waiting).run { r.2 with waiting := [] }
    .ok { root := r.1, collections := b.2.collections }) := by
  simp only [Data.ofDocument, StateT.run_bind]
  cases (datumOf d.root).run {
      nodes := d.nodes, known := Array.replicate d.nodes.size none
      collections := Array.replicate d.nodes.size (.list []) } with
  | error e => rfl
  | ok r =>
    show ((buildAll d.nodes.size r.2.waiting).run { r.2 with waiting := [] } >>= _) >>= _ =
      (buildAll d.nodes.size r.2.waiting).run { r.2 with waiting := [] } >>= _
    cases (buildAll d.nodes.size r.2.waiting).run { r.2 with waiting := [] } <;> rfl

/-- **What a line says**: a mapping of one entry, whose key and value are what the name and the word say. -/
theorem ofDocument_line (hname : tagOfPlain (.ofChars name) ≠ .value) :
    Data.ofDocument { nodes := lineNodes [(1, 2)] name word, root := 0 } =
      (lineEntry name word).map fun e =>
        { root := .shared 0, collections := #[.map [(e.1, .atom e.2)], .list [], .list []] } := by
  let b := lineBuilding name word (none, none)
  have hroot : (datumOf 0).run { b with known := Array.replicate 3 none } =
    .ok (.shared 0, { b with waiting := [0] }) := rfl
  have hdocument : Data.ofDocument { nodes := lineNodes [(1, 2)] name word, root := 0 } =
      (buildAll 3 [0]).run b >>= fun r => .ok { root := .shared 0, collections := r.2.collections } := by
    rw [ofDocument_eq]
    exact congrArg (· >>= _) hroot
  rw [hdocument, run_buildAll_line hname]
  cases lineEntry name word <;> rfl

end

end CloudScaffold.Yaml
