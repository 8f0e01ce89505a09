import CloudScaffold.Proofs.Hcl.Keys
import CloudScaffold.Proofs.Hcl.Writable
import Mathlib.Data.List.Chain
/-!
# Bodies as they are laid out

What a body looks like is said apart from how it is made. Its entries are items in order: an attribute, or
the blocks of an entry that stands for blocks; a null is none (`items`). Attributes without a block between
them are a run, whose equals signs stand in one column, one space behind the longest key (`IsRun`). A blank
line stands between a run and a block and between two blocks, and inside a block its own entries are laid
out in the same way (`Laid`).

Then no blank line is the first or the last line and no two are adjacent, on any level (`Laid.spaced`).
Main statement: `renderBody_laid`. A body whose values can be written is laid out like this.
-/
namespace CloudScaffold.Hcl

/-! ## The layout -/

/-- What the lines of a body are about. -/
inductive Item where
  | attr (kv : String × Value)
  | block (key : String) (kvs : Attributes)

def Item.isBlock : Item → Bool
  | .block _ _ => true
  | .attr _ => false

/-- The entries of the blocks among some values. -/
def blocksOf : List Value → List Attributes
  | [] => []
  | .block kvs :: r => kvs :: blocksOf r
  | _ :: r => blocksOf r

/-- The items of an entry: none for a null, and one for each of its blocks. -/
def entryItems (k : String) : Value → List Item
  | .null => []
  | .block kvs => [.block k kvs]
  | .list xs => if isBlockList xs then (blocksOf xs).map (.block k) else [.attr (k, .list xs)]
  | v => [.attr (k, v)]

def items (kvs : Attributes) : List Item := kvs.flatMap fun kv => entryItems kv.1 kv.2

/-- The line of an attribute: its key, spaces, the equals sign in a column, a space and its value. -/
def IsAttrLine (depth column : Nat) (kv : String × Value) (l : String) : Prop :=
  ∃ gap t, renderValue depth kv.2 = .ok t ∧ (∀ c ∈ gap, c = ' ') ∧
    l.toList = (indent depth).toList ++ (objectKey kv.1).toList ++ gap ++ '=' :: ' ' :: t.toList ∧
    ((indent depth).toList ++ (objectKey kv.1).toList ++ gap).length = column

/-- The lines of a run: one for each attribute, with the equals signs one space behind the longest key. -/
structure IsRun (depth : Nat) (kvs : Attributes) (ls : List String) : Prop where
  nonempty : kvs ≠ []
  lines : ∃ longest ∈ kvs, (∀ kv ∈ kvs, (objectKey kv.1).length ≤ (objectKey longest.1).length) ∧
    List.Forall₂ (IsAttrLine depth (2 * depth + (objectKey longest.1).length + 1)) kvs ls

/-- Two groups of lines with a blank line between them, if there is a second one. -/
def apart (ls ms : List String) : List String := if ms = [] then ls else ls ++ "" :: ms

/-- Lines that are laid out for items: runs as long as they can be, and blocks. -/
inductive Laid : Nat → List Item → List String → Prop
  | nil {depth : Nat} : Laid depth [] []
  | run {depth : Nat} {kvs : Attributes} {is : List Item} {ls ms : List String} (h : IsRun depth kvs ls)
    (hend : ∀ i ∈ is.head?, i.isBlock = true) (hrest : Laid depth is ms) :
    Laid depth (kvs.map .attr ++ is) (apart ls ms)
  | block {depth : Nat} {k : String} {kvs : Attributes} {is : List Item} {body ms : List String}
    (hbody : Laid (depth + 1) (items kvs) body) (hrest : Laid depth is ms) :
    Laid depth (.block k kvs :: is) (apart (blockLines depth k body) ms)

/-- Lines with no blank line at their start or end, and no two of them adjacent. -/
structure Spaced (ls : List String) : Prop where
  first : ∀ l ∈ ls.head?, l ≠ ""
  last : ∀ l ∈ ls.getLast?, l ≠ ""
  chain : ls.IsChain fun l l' => l ≠ "" ∨ l' ≠ ""

section
variable {depth : Nat} {k : String} {kvs : Attributes} {is : List Item} {ls ms : List String}

/-! ## Blank lines -/

theorem Spaced.of_ne (h : ∀ l ∈ ls, l ≠ "") : Spaced ls where
  first l hl := h l (List.mem_of_head? hl)
  last l hl := h l (List.mem_of_getLast? hl)
  chain := by
    induction ls with
    | nil => exact .nil
    | cons l ls ih =>
      obtain ⟨hl, hls⟩ := List.forall_mem_cons.1 h
      exact List.isChain_cons.2 ⟨fun _ _ => .inl hl, ih hls⟩

/-- A blank line between two groups is the only one there. -/
theorem Spaced.apart (hne : ls ≠ []) (h : Spaced ls) (h' : Spaced ms) : Spaced (apart ls ms) := by
  unfold Hcl.apart
  split
  · exact h
  · next hms =>
    refine ⟨fun l hl => h.first l ?_, fun l hl => h'.last l ?_, List.isChain_append.2 ⟨h.chain, ?_, ?_⟩⟩
    · rwa [List.head?_append_of_ne_nil ls hne] at hl
    · rwa [List.getLast?_append_of_ne_nil _ (List.cons_ne_nil _ _), List.getLast?_cons_of_ne_nil hms] at hl
    · exact List.isChain_cons.2 ⟨fun l hl => .inr (h'.first l hl), h'.chain⟩
    · exact fun l hl _ _ => .inl (h.last l hl)

theorem header_ne (depth : Nat) (header : String) : indent depth ++ header ++ " \x7b" ≠ "" := by
  intro h
  have hmem : '\x7b' ∈ (indent depth ++ header ++ " \x7b").toList := by simp
  rw [h] at hmem
  cases hmem

theorem brace_ne (depth : Nat) : indent depth ++ "\x7d" ≠ "" := by
  intro h
  have hmem : '\x7d' ∈ (indent depth ++ "\x7d").toList := by simp
  rw [h] at hmem
  cases hmem

theorem Spaced.blockLines {header : String} (h : Spaced ls) : Spaced (blockLines depth header ls) := by
  unfold Hcl.blockLines
  refine ⟨fun l hl => ?_, fun l hl => ?_, List.isChain_append.2 ⟨?_, .singleton _, fun l _ l' hl' => ?_⟩⟩
  · obtain rfl := Option.mem_some.1 hl
    exact header_ne depth header
  · rw [List.getLast?_concat] at hl
    obtain rfl := Option.mem_some.1 hl
    exact brace_ne depth
  · exact List.isChain_cons.2 ⟨fun _ _ => .inl (header_ne depth header), h.chain⟩
  · obtain rfl := Option.mem_some.1 hl'
    exact .inr (brace_ne depth)

theorem IsAttrLine.ne {column : Nat} {kv : String × Value} {l : String} (h : IsAttrLine depth column kv l) :
    l ≠ "" := by
  obtain ⟨gap, t, -, -, hl, -⟩ := h
  rintro rfl
  simp at hl

theorem IsRun.ne (h : IsRun depth kvs ls) : ls ≠ [] ∧ ∀ l ∈ ls, l ≠ "" := by
  obtain ⟨longest, -, -, hlines⟩ := h.lines
  constructor
  · rintro rfl
    exact h.nonempty (List.forall₂_nil_right_iff.1 hlines)
  · intro l hl
    obtain ⟨kv, -, hkv⟩ := exists_mem_of_forall₂ hlines hl
    exact hkv.ne

theorem blockLines_ne_nil {header : String} : blockLines depth header ls ≠ [] :=
  List.cons_ne_nil _ _

theorem apart_ne_nil (h : ls ≠ []) : apart ls ms ≠ [] := by
  unfold apart
  split
  · exact h
  · simp

/-- Items have lines. -/
theorem Laid.ne_nil (h : Laid depth is ls) (hne : is ≠ []) : ls ≠ [] := by
  cases h with
  | nil => exact absurd rfl hne
  | run h => exact apart_ne_nil h.ne.1
  | block => exact apart_ne_nil blockLines_ne_nil

/-- **Blank lines only part.** -/
theorem Laid.spaced (h : Laid depth is ls) : Spaced ls := by
  induction h with
  | nil => exact .of_ne (List.forall_mem_nil _)
  | run h _ _ ih => exact .apart h.ne.1 (.of_ne h.ne.2) ih
  | block _ _ ihbody ih => exact .apart blockLines_ne_nil ihbody.blockLines ih

/-! ## The renderer lays out bodies like this -/

/-- An item as the renderer writes it. -/
inductive PieceOf (depth : Nat) : Item → Piece → Prop
  | attr {kv : String × Value} {t : String} (h : renderValue depth kv.2 = .ok t) :
    PieceOf depth (.attr kv) (.attr (objectKey kv.1) t)
  | block {k : String} {kvs : Attributes} {body : List String} (h : Laid (depth + 1) (items kvs) body) :
    PieceOf depth (.block k kvs) (.block (blockLines depth k body))

/-- The longest of some keys is one of them. -/
theorem exists_keyWidth : ∀ {kts : List (String × String)}, kts ≠ [] →
    ∃ kt ∈ kts, kt.1.length = keyWidth kts
  | [kt], _ => ⟨kt, List.mem_cons_self, (Nat.max_zero _).symm⟩
  | kt :: kt' :: kts, _ => by
    obtain ⟨longest, hmem, hlen⟩ := exists_keyWidth (List.cons_ne_nil kt' kts)
    have hmax : keyWidth (kt :: kt' :: kts) = max kt.1.length (keyWidth (kt' :: kts)) := rfl
    rcases Nat.le_total (keyWidth (kt' :: kts)) kt.1.length with h | h
    · exact ⟨kt, List.mem_cons_self, by rw [hmax, Nat.max_eq_left h]⟩
    · exact ⟨longest, List.mem_cons_of_mem kt hmem, by rw [hmax, Nat.max_eq_right h, hlen]⟩

theorem le_keyWidth {kts : List (String × String)} {kt : String × String} (h : kt ∈ kts) :
    kt.1.length ≤ keyWidth kts := by
  induction kts with
  | nil => cases h
  | cons kt' kts ih =>
    rcases List.mem_cons.1 h with rfl | h
    · exact Nat.le_max_left ..
    · exact (ih h).trans (Nat.le_max_right ..)

/-- An attribute with the texts that are written for it. -/
def IsWritten (depth : Nat) (kv : String × Value) (kt : String × String) : Prop :=
  kt.1 = objectKey kv.1 ∧ renderValue depth kv.2 = .ok kt.2

theorem isAttrLine_attrLine {width : Nat} {kv : String × Value} {kt : String × String}
    (h : IsWritten depth kv kt) (hw : kt.1.length ≤ width) :
    IsAttrLine depth (2 * depth + width + 1) kv (attrLine depth width kt) := by
  obtain ⟨k, t⟩ := kt
  obtain ⟨rfl, ht⟩ := h
  refine ⟨List.replicate (width - (objectKey kv.1).length) ' ' ++ [' '], t, ht, ?_, ?_, ?_⟩
  · intro c hc
    rcases List.mem_append.1 hc with hc | hc
    · exact List.eq_of_mem_replicate hc
    · exact List.mem_singleton.1 hc
  · simp [attrLine, padKey]
  · have hlen : (objectKey kv.1).toList.length = (objectKey kv.1).length := String.length_toList
    have hkey : (objectKey kv.1).length ≤ width := hw
    simp only [List.length_append, List.length_replicate, List.length_singleton, hlen, indent,
      String.toList_ofList]
    omega

theorem forall₂_attrLines {width : Nat} {kts : List (String × String)}
    (h : List.Forall₂ (IsWritten depth) kvs kts) (hw : ∀ kt ∈ kts, kt.1.length ≤ width) :
    List.Forall₂ (IsAttrLine depth (2 * depth + width + 1)) kvs (kts.map (attrLine depth width)) := by
  induction h with
  | nil => exact .nil
  | cons hkv _ ih =>
    obtain ⟨hkt, hkts⟩ := List.forall_mem_cons.1 hw
    exact .cons (isAttrLine_attrLine hkv hkt) (ih hkts)

/-- The attributes of a run are written as one. -/
theorem isRun_attrLines {kts : List (String × String)} (hne : kvs ≠ [])
    (h : List.Forall₂ (IsWritten depth) kvs kts) : IsRun depth kvs (kts.map (attrLine depth (keyWidth kts))) := by
  refine ⟨hne, ?_⟩
  have hkts : kts ≠ [] := by
    rintro rfl
    exact hne (List.forall₂_nil_right_iff.1 h)
  obtain ⟨kt, hkt, hlen⟩ := exists_keyWidth hkts
  obtain ⟨longest, hlongest, hwritten⟩ := exists_mem_of_forall₂ h hkt
  rw [← hlen, hwritten.1]
  refine ⟨longest, hlongest, fun kv hkv => ?_, ?_⟩
  · obtain ⟨kt', hkt', hwritten'⟩ := exists_mem_of_forall₂ h.flip hkv
    rw [← hwritten.1, ← hwritten'.1, hlen]
    exact le_keyWidth hkt'
  · rw [← hwritten.1]
    exact forall₂_attrLines h fun kt' hkt' => hlen ▸ le_keyWidth hkt'

theorem sections_run {kts : List (String × String)} {ps : List Piece} (hne : kts ≠ [])
    (hend : ∀ k t, ps.head? ≠ some (.attr k t)) :
    sections (kts.map (fun kt => .attr kt.1 kt.2) ++ ps) = .run kts :: sections ps := by
  induction kts with
  | nil => exact absurd rfl hne
  | cons kt kts ih =>
    cases kts with
    | nil =>
      cases ps with
      | nil => rfl
      | cons p ps =>
        cases p with
        | attr k t => exact absurd rfl (hend k t)
        | block ls => rfl
    | cons kt' kts => rw [List.map_cons, List.cons_append, sections, ih (List.cons_ne_nil _ _)]

theorem sections_ne_nil {ps : List Piece} (h : ps ≠ []) : sections ps ≠ [] := by
  cases ps with
  | nil => exact absurd rfl h
  | cons p ps =>
    cases p with
    | block ls => exact List.cons_ne_nil _ _
    | attr k t =>
      rw [sections]
      split <;> exact List.cons_ne_nil _ _

/-- A section stands apart from those behind it. -/
theorem layout_of_sections {ps qs : List Piece} {s : Section} (h : sections ps = s :: sections qs)
    (hqs : qs ≠ [] → layout depth qs ≠ []) : layout depth ps = apart (s.lines depth) (layout depth qs) := by
  by_cases hnil : qs = []
  · subst hnil
    rw [layout, h]
    simp [apart, layout, sections]
  · obtain ⟨s', ss, hss⟩ := List.exists_cons_of_ne_nil (sections_ne_nil hnil)
    rw [apart, if_neg (hqs hnil), layout, layout, h, hss, List.map_cons, List.map_cons,
      List.intercalate_cons_cons, List.append_assoc, List.singleton_append]

/-- A run of attributes, or none, and what begins with a block behind it, as items and as pieces. -/
structure Split (depth : Nat) (kvs : Attributes) (kts : List (String × String)) (is : List Item)
    (ps : List Piece) : Prop where
  written : List.Forall₂ (IsWritten depth) kvs kts
  stops : ∀ i ∈ is.head?, i.isBlock = true
  pieces : List.Forall₂ (PieceOf depth) is ps
  laid : Laid depth is (layout depth ps)

section
variable {kts : List (String × String)} {ps : List Piece}

theorem Split.layout_ne_nil (h : Split depth kvs kts is ps) (hne : ps ≠ []) : layout depth ps ≠ [] := by
  refine h.laid.ne_nil ?_
  rintro rfl
  exact hne (List.forall₂_nil_left_iff.1 h.pieces)

/-- A run in front of a block is laid out. -/
theorem Split.laid_append (h : Split depth kvs kts is ps) :
    Laid depth (kvs.map .attr ++ is) (layout depth (kts.map (fun kt => .attr kt.1 kt.2) ++ ps)) := by
  by_cases hne : kvs = []
  · subst hne
    rw [List.forall₂_nil_left_iff.1 h.written]
    exact h.laid
  · have hkts : kts ≠ [] := by
      rintro rfl
      exact hne (List.forall₂_nil_right_iff.1 h.written)
    have hend : ∀ k t, ps.head? ≠ some (.attr k t) := by
      intro k t hhead
      have hstops := h.stops
      cases h.pieces with
      | nil => cases hhead
      | cons hp =>
        cases hp with
        | attr => exact absurd (hstops _ rfl) Bool.false_ne_true
        | block => cases hhead
    rw [layout_of_sections (sections_run hkts hend) h.layout_ne_nil]
    exact .run (isRun_attrLines hne h.written) h.stops h.laid

/-- **Pieces are laid out as their items**, a run at a time. -/
theorem exists_split (h : List.Forall₂ (PieceOf depth) is ps) :
    ∃ kvs kts is' ps', is = kvs.map .attr ++ is' ∧ ps = kts.map (fun kt => .attr kt.1 kt.2) ++ ps' ∧
      Split depth kvs kts is' ps' := by
  induction h with
  | nil => exact ⟨[], [], [], [], rfl, rfl, .nil, nofun, .nil, .nil⟩
  | @cons i p is ps hp hps ih =>
    obtain ⟨kvs, kts, is', ps', his, hps', hsplit⟩ := ih
    cases hp with
    | @attr kv t ht =>
      exact ⟨kv :: kvs, (objectKey kv.1, t) :: kts, is', ps', by rw [his]; rfl, by rw [hps']; rfl,
        .cons ⟨rfl, ht⟩ hsplit.written, hsplit.stops, hsplit.pieces, hsplit.laid⟩
    | @block k bs body hbody =>
      have hlaid := hsplit.laid_append
      rw [← his, ← hps'] at hlaid
      have hne (hnil : ps ≠ []) : layout depth ps ≠ [] := by
        refine hlaid.ne_nil ?_
        rintro rfl
        exact hnil (List.forall₂_nil_left_iff.1 hps)
      refine ⟨[], [], _, _, rfl, rfl, .nil, ?_, .cons (.block hbody) hps, ?_⟩
      · intro i hi
        obtain rfl := Option.mem_some.1 hi
        rfl
      · have hlayout : layout depth (.block (blockLines depth k body) :: ps) =
            apart (blockLines depth k body) (layout depth ps) :=
          layout_of_sections (s := .block (blockLines depth k body)) rfl hne
        rw [hlayout]
        exact .block hbody hlaid

theorem laid_layout (h : List.Forall₂ (PieceOf depth) is ps) : Laid depth is (layout depth ps) := by
  obtain ⟨kvs, kts, is', ps', rfl, rfl, hsplit⟩ := exists_split h
  exact hsplit.laid_append

end

/-! ## Bodies -/

theorem entryItems_of_isAttribute {v : Value} (hv : isAttribute v = true) : entryItems k v = [.attr (k, v)] := by
  cases v with
  | list xs => exact if_neg (by simpa [isAttribute, isBlocks] using hv)
  | null | block => cases hv
  | _ => rfl

/-- An attribute is one piece. -/
theorem pieceOf_of_isAttribute {v : Value} {ps : List Piece} (hv : isAttribute v = true)
    (h : renderEntry depth k v = .ok ps) : List.Forall₂ (PieceOf depth) (entryItems k v) ps := by
  rw [renderEntry_of_isAttribute hv, bind_eq_ok] at h
  obtain ⟨t, ht, h⟩ := h
  cases h
  rw [entryItems_of_isAttribute hv]
  exact .cons (.attr ht) .nil

mutual
/-- The renderer makes the pieces of the items of a body. -/
theorem pieceOf_of_renderPieces (depth : Nat) : ∀ (kvs : List (String × Value)) {ps : List Piece},
    renderPieces depth kvs = .ok ps → List.Forall₂ (PieceOf depth) (items kvs) ps
  | [] => by
    intro h
    cases h
    exact .nil
  | (k, v) :: r => by
    intro h
    simp only [renderPieces_cons, bind_eq_ok] at h
    obtain ⟨here, hhere, rest, hrest, h⟩ := h
    cases h
    exact List.rel_append (pieceOf_of_renderEntry depth k v hhere) (pieceOf_of_renderPieces depth r hrest)

/-- One case for each kind of entry: nothing, blocks or an attribute. -/
theorem pieceOf_of_renderEntry (depth : Nat) (k : String) : ∀ (v : Value) {ps : List Piece},
    renderEntry depth k v = .ok ps → List.Forall₂ (PieceOf depth) (entryItems k v) ps
  | .null => by
    intro h
    cases h
    exact .nil
  | .block kvs => by
    intro h
    simp only [renderEntry, bind_eq_ok] at h
    obtain ⟨body, hbody, h⟩ := h
    cases h
    exact .cons (.block (laid_layout (pieceOf_of_renderPieces (depth + 1) kvs hbody))) .nil
  | .list xs => by
    intro h
    by_cases hb : isBlockList xs = true
    · rw [renderEntry, if_pos hb] at h
      rw [entryItems, if_pos hb]
      exact pieceOf_of_renderBlocks depth k xs h
    · exact pieceOf_of_isAttribute (by simpa [isAttribute, isBlocks] using hb) h
  | .raw _ | .bool _ | .float _ | .str _ | .ref _ | .var _ | .int _ | .interp _ | .tuple _ | .map _
  | .other _ => pieceOf_of_isAttribute rfl

theorem pieceOf_of_renderBlocks (depth : Nat) (k : String) : ∀ (xs : List Value) {ps : List Piece},
    renderBlocks depth k xs = .ok ps → List.Forall₂ (PieceOf depth) ((blocksOf xs).map (.block k)) ps
  | [] => by
    intro h
    cases h
    exact .nil
  | .block kvs :: r => by
    intro h
    simp only [renderBlocks, bind_eq_ok] at h
    obtain ⟨body, hbody, rest, hrest, h⟩ := h
    cases h
    exact .cons (.block (laid_layout (pieceOf_of_renderPieces (depth + 1) kvs hbody)))
      (pieceOf_of_renderBlocks depth k r hrest)
  | .null :: r | .bool _ :: r | .int _ :: r | .float _ :: r | .str _ :: r | .list _ :: r | .tuple _ :: r
  | .map _ :: r | .ref _ :: r | .var _ :: r | .interp _ :: r | .raw _ :: r | .other _ :: r => by
    intro h
    simp only [renderBlocks] at h
    exact pieceOf_of_renderBlocks depth k r h
end

/-- Nulls leave no trace. -/
theorem renderPieces_filter (depth : Nat) (kvs : Attributes) :
    renderPieces depth (kvs.filter fun kv => !kv.2.isNull) = renderPieces depth kvs := by
  induction kvs with
  | nil => rfl
  | cons kv kvs ih =>
    obtain ⟨k, v⟩ := kv
    by_cases hv : v = .null
    · subst hv
      rw [List.filter_cons_of_neg (by simp [Value.isNull]), ih, renderPieces_cons]
      simp only [renderEntry, bind, Except.bind]
      cases renderPieces depth kvs <;> rfl
    · rw [List.filter_cons_of_pos (by simpa [← Bool.not_eq_true, Value.isNull_iff] using hv), renderPieces_cons,
        renderPieces_cons, ih]

/-- **Bodies are laid out.** A body whose values can be written is laid out for its items: in their order,
attributes in runs with their equals signs one space behind the longest key, and a blank line in front of
each block and of each run but the first. No other line of it is blank, on any level. Without its nulls it
is the same. -/
theorem renderBody_laid (depth : Nat) {attrs : Attributes} (h : areMembers attrs = true) :
    ∃ ls, renderBody depth attrs = .ok ls ∧ Laid depth (items attrs) ls ∧ Spaced ls ∧
      renderBody depth (attrs.filter fun kv => !kv.2.isNull) = .ok ls := by
  obtain ⟨ps, hps⟩ := isOk_iff.1 ((renderPieces_isOk depth attrs).trans h)
  have hlaid := laid_layout (pieceOf_of_renderPieces depth attrs hps)
  refine ⟨layout depth ps, ?_, hlaid, hlaid.spaced, ?_⟩
  · rw [renderBody, hps]
    rfl
  · rw [renderBody, renderPieces_filter, hps]
    rfl

end

/-- A null inside a run, a block between two runs, an attribute of several lines and blocks without
attributes. -/
theorem renderBody_laid_server :
    let attrs : Attributes := [("ami", .str "linux"), ("note", .null), ("instance type", .str "t3"),
      ("disk", .block [("size", .str "20"), ("kms", .null)]), ("tags", .map [("Name", .str "web")]),
      ("rule", .list [.block [], .block [("open", .bool true), ("cidr", .list [.str "::/0"])]])]
    let ls := ["  ami             = \"linux\"", "  \"instance type\" = \"t3\"", "", "  disk \x7b", "    size = \"20\"",
      "  \x7d", "", "  tags = \x7b\n    Name = \"web\"\n  \x7d", "", "  rule \x7b", "  \x7d", "", "  rule \x7b",
      "    open = true", "    cidr = [\"::/0\"]", "  \x7d"]
    areMembers attrs = true ∧ renderBody 1 attrs = .ok ls ∧ Laid 1 (items attrs) ls ∧ Spaced ls := by
  intro attrs ls
  have hmembers : areMembers attrs = true := by decide
  have hls : renderBody 1 attrs = .ok ls := by decide +kernel
  obtain ⟨ls', hls', hlaid, hspaced, -⟩ := renderBody_laid 1 hmembers
  obtain rfl : ls = ls' := Except.ok.inj (hls.symm.trans hls')
  exact ⟨hmembers, hls, hlaid, hspaced⟩

/-! ## One piece after the other -/

/-- A body as far as it is written: its lines, and the attributes of a run that may go on. -/
structure Unfinished where
  lines : List String := []
  pending : List (String × String) := []

/-- Lines with a blank line behind them, if there are any. -/
def opened (ls : List String) : List String := if ls.isEmpty then [] else ls ++ [""]

/-- Writes the run that is pending. -/
def Unfinished.flush (depth : Nat) (d : Unfinished) : Unfinished :=
  if d.pending.isEmpty then d
  else { lines := opened d.lines ++ d.pending.map (attrLine depth (keyWidth d.pending)) }

/-- An attribute waits for the end of its run, which a block is. -/
def Unfinished.step (depth : Nat) (d : Unfinished) : Piece → Unfinished
  | .attr k t => { d with pending := d.pending ++ [(k, t)] }
  | .block ls => { lines := opened (d.flush depth).lines ++ ls }

/-- The lines of a body, piece by piece. -/
def layoutInTurn (depth : Nat) (ps : List Piece) : List String :=
  ((ps.foldl (Unfinished.step depth) {}).flush depth).lines

/-- Two groups of lines with a blank line between them, if there are both. -/
def parted (ls ms : List String) : List String := if ls = [] then ms else apart ls ms

section
variable {depth : Nat} {ls ms ns : List String} {kts : List (String × String)} {ps : List Piece}

theorem parted_nil (ls : List String) : parted ls [] = ls := by
  unfold parted apart
  split <;> simp_all

theorem parted_eq_opened (ls : List String) (h : ms ≠ []) : parted ls ms = opened ls ++ ms := by
  unfold parted apart opened
  cases ls <;> simp [h]

theorem parted_assoc (ls ms ns : List String) : parted (parted ls ms) ns = parted ls (parted ms ns) := by
  unfold parted apart
  cases ls <;> cases ms <;> cases ns <;> simp

theorem Unfinished.flush_lines (depth : Nat) (d : Unfinished) :
    (d.flush depth).lines = parted d.lines (d.pending.map (attrLine depth (keyWidth d.pending))) := by
  unfold Unfinished.flush
  split
  · next h => rw [List.isEmpty_iff.1 h, List.map_nil, parted_nil]
  · next h =>
    rw [parted_eq_opened]
    simpa using h

/-- Pieces have lines, unless they are blocks without any. -/
theorem layout_ne_nil (h : ∀ ls, .block ls ∈ ps → ls ≠ []) (hne : ps ≠ []) : layout depth ps ≠ [] := by
  obtain ⟨p, r, rfl⟩ := List.exists_cons_of_ne_nil hne
  obtain ⟨s, ss, hss, hlines⟩ : ∃ s ss, sections (p :: r) = s :: ss ∧ s.lines depth ≠ [] := by
    cases p with
    | block ls => exact ⟨.block ls, _, rfl, h ls List.mem_cons_self⟩
    | attr k t =>
      rw [sections]
      split <;> exact ⟨_, _, rfl, List.cons_ne_nil _ _⟩
  rw [layout, hss, List.map_cons, intercalate_cons]
  exact List.append_ne_nil_of_left_ne_nil hlines _

theorem layout_block (hne : ls ≠ []) (h : ∀ ls, .block ls ∈ ps → ls ≠ []) :
    layout depth (.block ls :: ps) = parted ls (layout depth ps) := by
  rw [parted, if_neg hne]
  exact layout_of_sections (s := .block ls) rfl (layout_ne_nil h)

theorem layout_run (kts : List (String × String)) (h : ∀ ls, .block ls ∈ ps → ls ≠ [])
    (hend : ∀ k t, ps.head? ≠ some (.attr k t)) :
    layout depth (kts.map (fun kt => .attr kt.1 kt.2) ++ ps) =
      parted (kts.map (attrLine depth (keyWidth kts))) (layout depth ps) := by
  by_cases hkts : kts = []
  · subst hkts
    rfl
  · rw [parted, if_neg (by simpa using hkts)]
    exact layout_of_sections (sections_run hkts hend) (layout_ne_nil h)

/-- What is written in turn is what was there before, and the layout of what is pending and what comes. -/
theorem foldl_step_lines (depth : Nat) : ∀ (ps : List Piece) (d : Unfinished),
    (∀ ls, .block ls ∈ ps → ls ≠ []) → ((ps.foldl (Unfinished.step depth) d).flush depth).lines =
      parted d.lines (layout depth (d.pending.map (fun kt => .attr kt.1 kt.2) ++ ps))
  | [], d, _ => by
    have hrun : layout depth (d.pending.map (fun kt => .attr kt.1 kt.2) ++ []) =
        parted (d.pending.map (attrLine depth (keyWidth d.pending))) [] :=
      layout_run d.pending nofun nofun
    rw [List.foldl_nil, Unfinished.flush_lines, hrun, parted_nil]
  | .attr k t :: ps, d, h => by
    have hps : ∀ ls, .block ls ∈ ps → ls ≠ [] := fun ls hls => h ls (List.mem_cons_of_mem _ hls)
    rw [List.foldl_cons, foldl_step_lines depth ps _ hps, Unfinished.step, List.map_append, List.append_assoc]
    rfl
  | .block ls :: ps, d, h => by
    obtain ⟨hls, hps⟩ : ls ≠ [] ∧ ∀ ls, .block ls ∈ ps → ls ≠ [] :=
      ⟨h ls List.mem_cons_self, fun ls hls => h ls (List.mem_cons_of_mem _ hls)⟩
    rw [List.foldl_cons, foldl_step_lines depth ps _ hps, Unfinished.step, layout_run d.pending h nofun,
      layout_block hls hps]
    -- the block stands apart from the run in front of it, and that from the lines so far
    calc
      parted (opened (d.flush depth).lines ++ ls) (layout depth ps)
        = parted (parted (d.flush depth).lines ls) (layout depth ps) := by rw [parted_eq_opened _ hls]
      _ = parted (d.flush depth).lines (parted ls (layout depth ps)) := parted_assoc ..
      _ = _ := by rw [Unfinished.flush_lines, parted_assoc]

/-- **Runs and blocks come out one piece after the other**: attributes that are written only when their run
ends, and a blank line in front of each group but the first. -/
theorem layout_eq_inTurn (depth : Nat) (h : ∀ ls, .block ls ∈ ps → ls ≠ []) :
    layout depth ps = layoutInTurn depth ps := by
  rw [layoutInTurn, foldl_step_lines depth ps {} h]
  rfl

/-- The lines of a body are written one piece after the other. -/
theorem renderBody_inTurn (depth : Nat) (attrs : Attributes) :
    renderBody depth attrs = (renderPieces depth attrs).map (layoutInTurn depth) := by
  rw [renderBody]
  cases hps : renderPieces depth attrs with
  | error e => rfl
  | ok ps =>
    refine congrArg Except.ok (layout_eq_inTurn depth fun ls hls => ?_)
    obtain ⟨i, -, hi⟩ := exists_mem_of_forall₂ (pieceOf_of_renderPieces depth attrs hps) hls
    cases hi
    exact blockLines_ne_nil

end

end CloudScaffold.Hcl
