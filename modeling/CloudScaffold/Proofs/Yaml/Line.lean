import CloudScaffold.Proofs.Yaml.Words
import CloudScaffold.Yaml.Document
/-!
# Documents of one line

A line of a name, a colon and a word is read as a mapping of one entry (`ofText_line`), in the order of
its tokens: the word behind the colon (`run_readValue_word`), the entries of the mapping
(`run_readBlockMapping_line`), the mapping as the node of the document (`run_readNode_line`), and the end
of the text, where no other document starts (`run_readStart_ended`). Each step is put in front of the
rest by `run_bind`. The nodes are numbered as they come: the mapping before the name and the word
(`lineNodes`).
-/
namespace CloudScaffold.Yaml

open Text

/-- A step that succeeds gives its answer and its state to the rest. -/
theorem run_bind {σ ε α β : Type} {x : StateT σ (Except ε) α} {f : α → StateT σ (Except ε) β} {s s' : σ}
    {a : α} (hx : x.run s = .ok (a, s')) : (x >>= f).run s = (f a).run s' := by
  rw [StateT.run_bind, hx]
  rfl

theorem run_bind_error {σ ε α β : Type} {x : StateT σ (Except ε) α} {f : α → StateT σ (Except ε) β} {s : σ}
    {e : ε} (hx : x.run s = .error e) : (x >>= f).run s = .error e := by
  rw [StateT.run_bind, hx]
  rfl

/-! ## Reading token by token -/

section
variable {r r' r'' : Reading} {s s' : Stream} {t : Token} {text : Points} {nodes : Nodes}
variable {handles : List (String × String)} {anchors : List (String × NodeId)} {depth fuel : Nat}
variable {place : Place} {ends : Token → Bool} {name word : List Char} {c : Cursor}

theorem run_peekToken (h : s.peek = .ok (t, s')) :
    peekToken.run ⟨s, nodes, handles, anchors, depth⟩ = .ok (t, ⟨s', nodes, handles, anchors, depth⟩) := by
  simp only [peekToken, StateT.run_bind, StateT.run_get, pure_bind, h]
  rfl

theorem run_dropToken : dropToken.run ⟨s, nodes, handles, anchors, depth⟩ =
    .ok ((), ⟨s.drop, nodes, handles, anchors, depth⟩) := rfl

/-- A node without an anchor or a tag before it has no properties. -/
theorem run_takeProperties (h : s.peek = .ok (t, s)) (hanchor : ∀ a, t ≠ .anchor a)
    (htag : ∀ handle suffix, t ≠ .tag handle suffix) :
    takeProperties.run ⟨s, nodes, handles, anchors, depth⟩ =
      .ok ({}, ⟨s, nodes, handles, anchors, depth⟩) := by
  rw [takeProperties, run_bind (run_peekToken h)]
  split
  · exact absurd rfl (hanchor _)
  · exact absurd rfl (htag _ _)
  · rfl

theorem run_fullTag_none : (fullTag {}).run r = .ok (none, r) := rfl

/-- A plain scalar becomes a node of the tag of its text. -/
theorem run_readNode_scalar (h : s.peek = .ok (.scalar text true, s)) :
    (readNode place (fuel + 2)).run ⟨s, nodes, handles, anchors, depth⟩ = .ok (nodes.size,
      ⟨s.drop, nodes.push ⟨tagOfPlain text, .scalar text⟩, handles, anchors, depth⟩) := by
  rw [readNode, run_bind (run_peekToken h)]
  dsimp only
  rw [run_bind (run_takeProperties h (by simp) (by simp)), run_bind run_fullTag_none, readContent,
    run_bind (run_peekToken h)]
  rfl

theorem run_readUnless_scalar (h : s.peek = .ok (.scalar text true, s'))
    (hs : s'.peek = .ok (.scalar text true, s')) (hends : ends (.scalar text true) = false) :
    (readUnless place ends (fuel + 3)).run ⟨s, nodes, handles, anchors, depth⟩ = .ok (nodes.size,
      ⟨s'.drop, nodes.push ⟨tagOfPlain text, .scalar text⟩, handles, anchors, depth⟩) := by
  rw [readUnless, run_bind (run_peekToken h), hends, if_neg Bool.false_ne_true]
  exact run_readNode_scalar hs

/-- A collection has its number before its content is read. -/
theorem run_addCollection {kind : Tag} {empty content : Content} {read : Read Content}
    (hdepth : r.depth + 1 ≤ depthLimit)
    (hread : read.run { r with nodes := r.nodes.push ⟨kind, empty⟩, depth := r.depth + 1 } = .ok (content, r'))
    (hset : { r' with nodes := r'.nodes.setContent r.nodes.size content, depth := r'.depth - 1 } = r'') :
    (addCollection none none kind empty read).run r = .ok (r.nodes.size, r'') := by
  let added : Reading := { r with nodes := r.nodes.push ⟨kind, empty⟩ }
  let opened : Reading := { added with depth := r.depth + 1 }
  have hcheck : (checkAnchor none).run r = .ok ((), r) := rfl
  have hnode : (addNode ⟨kind, empty⟩).run r = .ok (r.nodes.size, added) := rfl
  have hnote : (noteAnchor none r.nodes.size).run added = .ok ((), added) := rfl
  have hopen : (modify fun r => { r with depth := r.depth + 1 } : Read Unit).run added = .ok ((), opened) := rfl
  have hget : (get : Read Reading).run opened = .ok (opened, opened) := rfl
  have hshallow : ¬ depthLimit < opened.depth := by
    show ¬ depthLimit < r.depth + 1
    omega
  refine (run_bind hcheck).trans ((run_bind hnode).trans ((run_bind hnote).trans
    ((run_bind hopen).trans ((run_bind hget).trans ?_))))
  dsimp only
  rw [if_neg hshallow, run_bind hread, ← hset]
  rfl

/-! ## A mapping of one entry -/

/-- The value behind a colon, at the end of a line. -/
theorem run_readValue_word (h : IsWord word []) (hc : c.rest = ' ' :: word)
    (hends : ends (.scalar (.ofChars word) true) = false) : ∃ c' : Cursor, c'.rest = [] ∧
      (readValue place ends (fuel + 4)).run ⟨.inLine c [.value] 3, nodes, handles, anchors, depth⟩ =
        .ok (nodes.size, ⟨.inLine c' [] 5, nodes.push ⟨tagOfPlain (.ofChars word), .scalar (.ofChars word)⟩,
          handles, anchors, depth⟩) := by
  obtain ⟨c', hend, hword⟩ := Stream.peek_word (n := 4) h hc
  refine ⟨c', hend, ?_⟩
  rw [readValue, run_bind (run_peekToken Stream.peek_inLine)]
  dsimp only
  rw [run_bind run_dropToken]
  exact run_readUnless_scalar hword Stream.peek_inLine hends

theorem run_readBlockMapping_end (hc : c.rest = []) : (readBlockMapping (fuel + 1)).run
    ⟨.inLine c [] 5, nodes, handles, anchors, depth⟩ =
      .ok ([], ⟨.ended c [.streamEnd] 6, nodes, handles, anchors, depth⟩) := by
  rw [readBlockMapping, run_bind (run_peekToken (Stream.peek_end hc))]
  rfl

/-- The nodes of a name and a text, behind the node of their mapping. -/
def lineNodes (entries : List Entry) (name word : List Char) : Nodes :=
  #[⟨.map, .mapping entries⟩, ⟨tagOfPlain (.ofChars name), .scalar (.ofChars name)⟩,
    ⟨tagOfPlain (.ofChars word), .scalar (.ofChars word)⟩]

/-- The entries of a mapping whose only key is next. -/
theorem run_readBlockMapping_line (h : IsWord word []) (hc : c.rest = ' ' :: word) :
    ∃ c' : Cursor, (readBlockMapping (fuel + 6)).run
      ⟨.inLine c [.key, .scalar (.ofChars name) true, .value] 1, #[⟨.map, .mapping []⟩], handles, anchors,
        depth⟩ = .ok ([(1, 2)],
          ⟨.ended c' [.streamEnd] 6, lineNodes [] name word, handles, anchors, depth⟩) := by
  obtain ⟨c', hend, hvalue⟩ : ∃ c' : Cursor, c'.rest = [] ∧
      (readValue { block := true, indentless := true }
        (fun t => t == .key || t == .value || t == .blockEnd) (fuel + 5)).run ⟨.inLine c [.value] 3,
          #[⟨.map, .mapping []⟩, ⟨tagOfPlain (.ofChars name), .scalar (.ofChars name)⟩], handles, anchors,
          depth⟩ = .ok (2, ⟨.inLine c' [] 5, lineNodes [] name word, handles, anchors, depth⟩) :=
    run_readValue_word h hc rfl
  refine ⟨c', ?_⟩
  rw [readBlockMapping, run_bind (run_peekToken Stream.peek_inLine)]
  dsimp only
  rw [run_bind run_dropToken, Stream.drop_inLine,
    run_bind (run_readUnless_scalar Stream.peek_inLine Stream.peek_inLine rfl), Stream.drop_inLine]
  refine (run_bind hvalue).trans ?_
  rw [run_bind (run_readBlockMapping_end hend)]
  rfl

/-- A mapping of a name and a word. -/
theorem run_readNode_line (h : IsWord word []) (hc : c.rest = ' ' :: word) :
    ∃ c' : Cursor, (readNode { block := true } (fuel + 8)).run
      ⟨.inLine c [.blockMappingStart, .key, .scalar (.ofChars name) true, .value] 0, #[], handles, [], 0⟩ =
        .ok (0, ⟨.ended c' [.streamEnd] 6, lineNodes [(1, 2)] name word, handles, [], 0⟩) := by
  obtain ⟨c', hmapping⟩ : ∃ c' : Cursor, (readBlockMapping (fuel + 6)).run
      ⟨.inLine c [.key, .scalar (.ofChars name) true, .value] 1, #[⟨.map, .mapping []⟩], handles, [], 1⟩ =
        .ok ([(1, 2)], ⟨.ended c' [.streamEnd] 6, lineNodes [] name word, handles, [], 1⟩) :=
    run_readBlockMapping_line h hc
  refine ⟨c', ?_⟩
  rw [readNode, run_bind (run_peekToken Stream.peek_inLine)]
  dsimp only
  rw [run_bind (run_takeProperties Stream.peek_inLine (by simp) (by simp)), run_bind run_fullTag_none,
    readContent, run_bind (run_peekToken Stream.peek_inLine)]
  have hentries : (do dropToken; readBlockMapping (fuel + 6) : Read (List Entry)).run
      ⟨.inLine c [.blockMappingStart, .key, .scalar (.ofChars name) true, .value] 0, #[⟨.map, .mapping []⟩],
        handles, [], 1⟩ =
      .ok ([(1, 2)], ⟨.ended c' [.streamEnd] 6, lineNodes [] name word, handles, [], 1⟩) := by
    rw [run_bind run_dropToken, Stream.drop_inLine]
    exact hmapping
  have hread : (do
      let es ← (do dropToken; readBlockMapping (fuel + 6))
      pure (Content.mapping es) : Read Content).run
        ⟨.inLine c [.blockMappingStart, .key, .scalar (.ofChars name) true, .value] 0, #[⟨.map, .mapping []⟩],
          handles, [], 1⟩ =
      .ok (.mapping [(1, 2)], ⟨.ended c' [.streamEnd] 6, lineNodes [] name word, handles, [], 1⟩) :=
    (run_bind hentries).trans rfl
  exact run_addCollection (by decide : 0 + 1 ≤ depthLimit) hread rfl

/-! ## A document of one line -/

/-- A stream that has come to its end holds no other document. -/
theorem run_readStart_ended : (readStart fuel).run ⟨.ended c [.streamEnd] 6, nodes, handles, anchors, depth⟩ =
    .ok (false, ⟨.ended c [.streamEnd] 6, nodes, handles, anchors, depth⟩) := by
  have hskip : (skipEnds fuel).run ⟨.ended c [.streamEnd] 6, nodes, handles, anchors, depth⟩ =
      .ok ((), ⟨.ended c [.streamEnd] 6, nodes, handles, anchors, depth⟩) := by
    cases fuel with
    | zero => rfl
    | succ fuel =>
      rw [skipEnds, run_bind (run_peekToken Stream.peek_ended)]
      rfl
  rw [readStart, run_bind hskip, run_bind (run_peekToken Stream.peek_ended)]
  rfl

/-- A line of a name and a word is a mapping of one entry. -/
theorem run_readStream_line (hname : IsWord name (':' :: ' ' :: word)) (hmark : name.head? ≠ some orderMark)
    (hreach : name.length ≤ keyReach) (hword : IsWord word []) : ∃ r : Reading,
      r.nodes = lineNodes [(1, 2)] name word ∧ (readStream (fuel + 8)).run
        { stream := .ofChars (name ++ ':' :: ' ' :: word) } = .ok (some 0, r) := by
  obtain ⟨c, hrest, hstart⟩ := Stream.peek_start hname hmark hreach
  obtain ⟨c', hnode⟩ : ∃ c' : Cursor, (readNode { block := true } (fuel + 8)).run
      ⟨.inLine c [.blockMappingStart, .key, .scalar (.ofChars name) true, .value] 0, #[], defaultHandles, [], 0⟩ =
        .ok (0, ⟨.ended c' [.streamEnd] 6, lineNodes [(1, 2)] name word, defaultHandles, [], 0⟩) :=
    run_readNode_line hword hrest
  refine ⟨⟨.ended c' [.streamEnd] 6, lineNodes [(1, 2)] name word, defaultHandles, [], 0⟩, rfl, ?_⟩
  have hmodify : (modify fun r => { r with handles := defaultHandles } : Read Unit).run
      ⟨.inLine c [.blockMappingStart, .key, .scalar (.ofChars name) true, .value] 0, #[], [], [], 0⟩ =
    .ok ((), ⟨.inLine c [.blockMappingStart, .key, .scalar (.ofChars name) true, .value] 0, #[],
      defaultHandles, [], 0⟩) := rfl
  have himplicit : (isDirective .blockMappingStart || Token.blockMappingStart == .documentStart ||
    Token.blockMappingStart == .streamEnd) = false := by decide
  have hend : (Token.streamEnd == .documentEnd) = false := by decide
  rw [readStream, run_bind (run_peekToken hstart)]
  simp only [himplicit, Bool.not_false, Bool.not_true, if_true, Bool.false_eq_true, if_false, pure_bind]
  rw [run_bind hmodify, run_bind hnode, run_bind (run_peekToken Stream.peek_ended)]
  simp only [hend, Bool.false_eq_true, if_false]
  rw [run_bind run_readStart_ended]
  rfl

/-- **A line of a name and a word is a document of one mapping**, which has one entry. -/
theorem ofText_line {s : String} (hs : s.toList = name ++ ':' :: ' ' :: word)
    (hprint : s.toList.all isPrintable = true) (hname : IsWord name (':' :: ' ' :: word))
    (hmark : name.head? ≠ some orderMark) (hreach : name.length ≤ keyReach) (hword : IsWord word []) :
    Document.ofText s = .ok (some { nodes := lineNodes [(1, 2)] name word, root := 0 }) := by
  obtain ⟨r, hnodes, hread⟩ : ∃ r : Reading, r.nodes = lineNodes [(1, 2)] name word ∧
      (readStream (16 * (s.toList.length + 4))).run { stream := .ofChars s.toList } = .ok (some 0, r) := by
    have hfuel : 16 * (s.toList.length + 4) = 16 * s.toList.length + 56 + 8 := by omega
    rw [hfuel, hs]
    exact run_readStream_line hname hmark hreach hword
  rw [Document.ofText]
  simp only [hprint, Bool.not_true, Bool.false_eq_true, if_false, hread]
  rw [← hnodes]
  rfl

end

end CloudScaffold.Yaml
