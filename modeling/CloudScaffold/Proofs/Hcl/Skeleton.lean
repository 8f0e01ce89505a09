import CloudScaffold.Hcl.Render
import CloudScaffold.Proofs.Hcl.Quoted
import CloudScaffold.Proofs.Lists
import CloudScaffold.Proofs.Number.Numeral
/-!
# The structure of a written body

What a text says cannot change how the body around it is built. `skeletonFrom` goes over a text from
left to right and leaves the contents of its quoted literals out; bodies that differ only in their
texts have one skeleton and equally many lines (`renderBody_outline`). Names that are written as they
are (of references, variables and blocks) must hold no quote, and expressions that are text already,
whole or in parts, are left out.

Two runs are compared by way of a third one, of the value in which every text is empty
(`Value.blanked`). `Alike` is what carries the induction over the writer: it speaks of all texts that
may follow, so that alike texts may stand one behind the other.
-/
namespace CloudScaffold.Hcl

open Number

/-! ## Skeletons -/

/-- A text without the contents of its quoted literals, from within or outside of one. Within a literal
a backslash and the character behind it are one unit. -/
def skeletonFrom : Bool → List Char → List Char
  | _, [] => []
  | false, c :: r => c :: skeletonFrom (c == '"') r
  | true, '\\' :: _ :: r => skeletonFrom true r
  | true, c :: r => if c = '"' then c :: skeletonFrom false r else skeletonFrom true r

def skeleton (s : String) : String := .ofList (skeletonFrom false s.toList)

theorem skeletonFrom_plain {c : Char} {r : List Char} (hb : c ≠ '\\') (hq : c ≠ '"') :
    skeletonFrom true (c :: r) = skeletonFrom true r := by
  rw [skeletonFrom, if_neg hq]
  exact fun _ _ hc _ => hb hc

/-- A text without quotes is its own skeleton. -/
theorem skeletonFrom_unquoted {t a : List Char} (h : '"' ∉ t) :
    skeletonFrom false (t ++ a) = t ++ skeletonFrom false a := by
  induction t with
  | nil => rfl
  | cons c t ih =>
    rw [List.mem_cons, not_or] at h
    have hc : (c == '"') = false := beq_false_of_ne (Ne.symm h.1)
    rw [List.cons_append, skeletonFrom, hc, ih h.2, List.cons_append]

/-- **No escaped text closes its literal**: the scan leaves it out up to the closing quote. -/
theorem skeletonFrom_escapeChars (a : List Char) : ∀ cs : List Char,
    skeletonFrom true (escapeChars cs ++ '"' :: a) = '"' :: skeletonFrom false a
  | [] => rfl
  | c :: r => by
    have ih := skeletonFrom_escapeChars a r
    by_cases ho : Opens (c :: r)
    · rw [escapeChars_opens ho]
      obtain ⟨d, r', hd, heq⟩ := ho
      obtain ⟨rfl, _⟩ := List.cons.inj heq
      have hc : c ≠ '\\' ∧ c ≠ '"' := by rcases hd with rfl | rfl <;> decide
      rw [List.cons_append, List.cons_append, skeletonFrom_plain hc.1 hc.2,
        skeletonFrom_plain hc.1 hc.2, ih]
    · rw [escapeChars_of_not_opens ho]
      by_cases hp : IsPaired c
      · rcases hp with rfl | rfl | rfl | rfl | rfl <;> exact ih
      · have hc := hp
        simp only [IsPaired, not_or] at hc
        rw [escapeChar_of_not_paired hp, List.singleton_append, List.cons_append,
          skeletonFrom_plain hc.1 hc.2.1, ih]

theorem skeletonFrom_quote (s : String) (a : List Char) :
    skeletonFrom false ((quote s).toList ++ a) = '"' :: '"' :: skeletonFrom false a := by
  have hquote : (quote s).toList ++ a = '"' :: (escapeChars s.toList ++ '"' :: a) := by
    simp [toList_quote]
  rw [hquote, skeletonFrom]
  exact congrArg _ (skeletonFrom_escapeChars a s.toList)

/-! ## Alike texts -/

/-- Texts that have equally many line breaks and one skeleton, whatever stands behind them. -/
structure Alike (t u : List Char) : Prop where
  breaks : t.count '\n' = u.count '\n'
  skeletons : ∀ {a b : List Char}, skeletonFrom false a = skeletonFrom false b →
    skeletonFrom false (t ++ a) = skeletonFrom false (u ++ b)

theorem Alike.of_unquoted {t : List Char} (h : '"' ∉ t) : Alike t t where
  breaks := rfl
  skeletons hab := by rw [skeletonFrom_unquoted h, skeletonFrom_unquoted h, hab]

theorem Alike.append {t u t' u' : List Char} (h : Alike t u) (h' : Alike t' u') :
    Alike (t ++ t') (u ++ u') where
  breaks := by rw [List.count_append, List.count_append, h.breaks, h'.breaks]
  skeletons hab := by
    rw [List.append_assoc, List.append_assoc]
    exact h.skeletons (h'.skeletons hab)

/-- **Quoted texts are alike**, whatever they say. -/
theorem Alike.quote (s t : String) : Alike (quote s).toList (quote t).toList where
  breaks := by
    have unbroken (s : String) : (Hcl.quote s).toList.count '\n' = 0 := by
      have hbreak : '\n' ∉ escapeChars s.toList := fun h => (ne_break_of_mem_escapeChars h).1 rfl
      rw [toList_quote, List.count_eq_zero]
      simpa using hbreak
    rw [unbroken, unbroken]
  skeletons hab := by rw [skeletonFrom_quote, skeletonFrom_quote, hab]

theorem Alike.intercalate {sep : List Char} (hsep : Alike sep sep) {ts us : List (List Char)}
    (h : List.Forall₂ Alike ts us) : Alike (sep.intercalate ts) (sep.intercalate us) := by
  have rest {ts us : List (List Char)} (h : List.Forall₂ Alike ts us) :
      Alike (ts.flatMap (sep ++ ·)) (us.flatMap (sep ++ ·)) := by
    induction h with
    | nil => exact .of_unquoted (by simp)
    | cons htu _ ih => exact (hsep.append htu).append ih
  cases h with
  | nil => exact .of_unquoted (by simp)
  | cons htu h =>
    rw [intercalate_cons, intercalate_cons]
    exact htu.append (rest h)

/-! ## Alike layouts -/

/-- Lines that are alike one by one. -/
abbrev AlikeLines (ls ls' : List String) : Prop :=
  List.Forall₂ (fun l l' => Alike l.toList l'.toList) ls ls'

/-- Attributes under one key, with alike values. -/
structure AlikeAttr (kv kv' : String × String) : Prop where
  key : kv.1 = kv'.1
  name : Alike kv.1.toList kv.1.toList
  value : Alike kv.2.toList kv'.2.toList

inductive AlikePiece : Piece → Piece → Prop
  | attr {k t u : String} (h : AlikeAttr (k, t) (k, u)) : AlikePiece (.attr k t) (.attr k u)
  | block {ls ls' : List String} (h : AlikeLines ls ls') : AlikePiece (.block ls) (.block ls')

inductive AlikeSection : Section → Section → Prop
  | run {kvs kvs' : List (String × String)} (h : List.Forall₂ AlikeAttr kvs kvs') :
    AlikeSection (.run kvs) (.run kvs')
  | block {ls ls' : List String} (h : AlikeLines ls ls') : AlikeSection (.block ls) (.block ls')

theorem alike_sections {ps qs : List Piece} (h : List.Forall₂ AlikePiece ps qs) :
    List.Forall₂ AlikeSection (sections ps) (sections qs) := by
  induction h with
  | nil => exact .nil
  | @cons p q ps qs hpq _ ih =>
    cases hpq with
    | block hls => exact .cons (.block hls) ih
    | attr hkv =>
      rw [sections, sections]
      generalize sections ps = ss, sections qs = ts at ih
      cases ih with
      | nil => exact .cons (.run (.cons hkv .nil)) .nil
      | cons hs ih =>
        cases hs with
        | run hkvs => exact .cons (.run (.cons hkv hkvs)) ih
        | block hls => exact .cons (.run (.cons hkv .nil)) (.cons (.block hls) ih)

theorem not_mem_indent (depth : Nat) : '"' ∉ (indent depth).toList := by
  simp [indent]

/-- The column of the equals signs shows nothing of the values. -/
theorem AlikeAttr.line (depth width : Nat) {kv kv' : String × String} (h : AlikeAttr kv kv') :
    Alike (attrLine depth width kv).toList (attrLine depth width kv').toList := by
  obtain ⟨k, t⟩ := kv
  obtain ⟨k', u⟩ := kv'
  obtain ⟨rfl, hname, hvalue⟩ := h
  simp only [attrLine, padKey, String.toList_append, String.toList_ofList]
  refine Alike.append (Alike.append (Alike.append ?_ (Alike.append hname ?_)) ?_) hvalue
  · exact .of_unquoted (not_mem_indent depth)
  · exact .of_unquoted (by simp)
  · exact .of_unquoted (by decide)

theorem AlikeSection.lines (depth : Nat) {s t : Section} (h : AlikeSection s t) :
    AlikeLines (s.lines depth) (t.lines depth) := by
  cases h with
  | block hls => exact hls
  | @run kvs kvs' hkvs =>
    have hkeys : kvs.map Prod.fst = kvs'.map Prod.fst := by
      rw [← List.forall₂_eq_eq_eq, List.forall₂_map_left_iff, List.forall₂_map_right_iff]
      exact hkvs.imp fun _ _ h => h.key
    rw [Section.lines, Section.lines, keyWidth_congr hkeys]
    rw [AlikeLines, List.forall₂_map_left_iff, List.forall₂_map_right_iff]
    exact hkvs.imp fun _ _ h => h.line depth _

theorem alike_layout (depth : Nat) {ps qs : List Piece} (h : List.Forall₂ AlikePiece ps qs) :
    AlikeLines (layout depth ps) (layout depth qs) := by
  refine forall₂_intercalate (.cons (.of_unquoted (by simp)) .nil) ?_
  rw [List.forall₂_map_left_iff, List.forall₂_map_right_iff]
  exact (alike_sections h).imp fun _ _ hs => hs.lines depth

theorem alike_unlines {ls ls' : List String} (h : AlikeLines ls ls') :
    Alike (unlines ls).toList (unlines ls').toList := by
  rw [unlines, unlines, String.toList_intercalate, String.toList_intercalate]
  refine .intercalate (.of_unquoted (by decide)) ?_
  rwa [List.forall₂_map_left_iff, List.forall₂_map_right_iff]

/-! ## Values without their texts -/

mutual
/-- A value in which every text is empty. -/
def blanked : Value → Value
  | .str _ => .str ""
  | .list xs => .list (blankedAll xs)
  | .tuple xs => .tuple (blankedAll xs)
  | .map kvs => .map (blankedEntries kvs)
  | .block kvs => .block (blankedEntries kvs)
  | v => v

def blankedAll : List Value → List Value
  | [] => []
  | x :: xs => blanked x :: blankedAll xs

def blankedEntries : List (String × Value) → List (String × Value)
  | [] => []
  | (k, v) :: r => (k, blanked v) :: blankedEntries r
end

/-- A name that may be written as it is. -/
def isUnquoted (s : String) : Bool := !s.toList.contains '"'

/-- Whether a value stands for blocks under its key. -/
def isBlocks : Value → Bool
  | .block _ => true
  | .list xs => isBlockList xs
  | _ => false

mutual
/-- Whether no name in a value holds a quote and no expression in it is text already. -/
def isTame : Value → Bool
  | .raw _ | .interp _ => false
  | .ref r => isUnquoted r.expression
  | .var n => isUnquoted n
  | .list xs | .tuple xs => areTame xs
  | .map kvs | .block kvs => areTameEntries kvs
  | _ => true

def areTame : List Value → Bool
  | [] => true
  | x :: xs => isTame x && areTame xs

def areTameEntries : List (String × Value) → Bool
  | [] => true
  | (k, v) :: r => (!isBlocks v || isUnquoted k) && isTame v && areTameEntries r
end

theorem isBlock_blanked (v : Value) : (blanked v).isBlock = v.isBlock := by
  cases v <;> rfl

theorem isBlockList_blanked (xs : List Value) : isBlockList (blankedAll xs) = isBlockList xs := by
  have hall : (blankedAll xs).all (·.isBlock) = xs.all (·.isBlock) := by
    induction xs with
    | nil => rfl
    | cons x xs ih => rw [blankedAll, List.all_cons, List.all_cons, isBlock_blanked, ih]
  unfold isBlockList
  rw [hall]
  cases xs <;> rfl

theorem not_mem_of_isUnquoted {s : String} (h : isUnquoted s = true) : '"' ∉ s.toList := by
  simpa [isUnquoted] using h

theorem alike_number {t : List Char} (h : ∀ c ∈ t, isNumberChar c = true) : Alike t t := by
  refine .of_unquoted fun hq => ?_
  have hno : isNumberChar '"' = false := by decide
  rw [h _ hq] at hno
  cases hno

/-- A key is written in one way, bare or quoted. -/
theorem alike_objectKey (k : String) : Alike (objectKey k).toList (objectKey k).toList := by
  unfold objectKey
  split
  · rename_i hk
    exact .of_unquoted fun hq => ((isBare_key hk).2 _ hq).1 rfl
  · exact .quote k k

theorem alike_list {ts us : List String} (h : AlikeLines ts us) :
    Alike ("[" ++ ", ".intercalate ts ++ "]").toList ("[" ++ ", ".intercalate us ++ "]").toList := by
  simp only [String.toList_append, String.toList_intercalate]
  refine Alike.append (Alike.append (.of_unquoted (by decide)) ?_) (.of_unquoted (by decide))
  refine .intercalate (.of_unquoted (by decide)) ?_
  rwa [List.forall₂_map_left_iff, List.forall₂_map_right_iff]

theorem alike_objectText (depth : Nat) {ls ls' : List String} (h : AlikeLines ls ls') :
    Alike (objectText depth ls).toList (objectText depth ls').toList := by
  simp only [objectText, String.toList_append]
  refine Alike.append (Alike.append (Alike.append (Alike.append ?_ (alike_unlines h)) ?_) ?_) ?_
  · exact .of_unquoted (by decide)
  · exact .of_unquoted (by decide)
  · exact .of_unquoted (not_mem_indent depth)
  · exact .of_unquoted (by decide)

theorem alike_blockLines (depth : Nat) {header : String} (hh : '"' ∉ header.toList)
    {ls ls' : List String} (h : AlikeLines ls ls') :
    AlikeLines (blockLines depth header ls) (blockLines depth header ls') := by
  refine List.rel_append (List.rel_append (.cons ?_ .nil) h) (.cons ?_ .nil)
  · refine .of_unquoted ?_
    simp [hh, indent]
  · refine .of_unquoted ?_
    simp [indent]

/-! ## The renderer -/

/-- An attribute whose value is written alike. -/
theorem related_attr (k : String) {x y : Except RenderError String}
    (h : Related (fun t u => Alike t.toList u.toList) x y) :
    Related (List.Forall₂ AlikePiece) (x >>= fun t => .ok [.attr (objectKey k) t])
      (y >>= fun t => .ok [.attr (objectKey k) t]) :=
  h.bind fun htu => .ok (.cons (.attr ⟨rfl, alike_objectKey k, htu⟩) .nil)

/-- An entry of a body is written alike if its value is, and its blocks are if it stands for some. -/
theorem related_cons {depth : Nat} (k : String) {v : Value} {r : List (String × Value)}
    (hv : Related (List.Forall₂ AlikePiece) (renderEntry depth k v) (renderEntry depth k (blanked v)))
    (hr : Related (List.Forall₂ AlikePiece) (renderPieces depth r)
      (renderPieces depth (blankedEntries r))) :
    Related (List.Forall₂ AlikePiece) (renderPieces depth ((k, v) :: r))
      (renderPieces depth (blankedEntries ((k, v) :: r))) := by
  rw [blankedEntries, renderPieces_cons, renderPieces_cons]
  exact hv.bind fun hhere => hr.bind fun hrest => .ok (List.rel_append hhere hrest)

mutual
/-- **A value is written alike without its texts.** -/
theorem related_value (depth : Nat) : ∀ v : Value, isTame v = true →
    Related (fun t u => Alike t.toList u.toList) (renderValue depth v) (renderValue depth (blanked v))
  | .null => by
    intro _
    exact .error _
  | .bool b => by
    intro _
    exact .ok (.of_unquoted (by cases b <;> decide))
  | .int n => by
    intro _
    simp only [blanked, renderValue, writeInt]
    split
    · exact .error _
    · exact .ok (alike_number (isNumberChar_showInt n))
  | .float x => by
    intro _
    exact .ok (alike_number (Binary64.isNumberChar_text x))
  | .str s => by
    intro _
    exact .ok (.quote s "")
  | .ref r => by
    intro h
    exact .ok (.of_unquoted (not_mem_of_isUnquoted h))
  | .var n => by
    intro h
    refine .ok (.of_unquoted ?_)
    simpa using not_mem_of_isUnquoted h
  | .list xs | .tuple xs => by
    intro h
    rw [blanked, renderValue, renderValue]
    exact (related_items depth xs h).bind fun hts => .ok (alike_list hts)
  | .map [] => by
    intro _
    exact .ok (.of_unquoted (by decide))
  | .map (kv :: kvs) => by
    intro h
    rw [blanked, blankedEntries, renderValue, renderValue]
    · exact (related_pieces (depth + 1) (kv :: kvs) h).bind fun hps =>
        .ok (alike_objectText depth (alike_layout (depth + 1) hps))
    · exact List.cons_ne_nil _ _
    · exact List.cons_ne_nil _ _
  | .block _ => by
    intro _
    exact .error _
  | .other _ => by
    intro _
    exact .error _
  | .interp _ => by
    intro h
    cases h
  | .raw _ => by
    intro h
    cases h

theorem related_items (depth : Nat) : ∀ xs : List Value, areTame xs = true →
    Related AlikeLines (renderItems depth xs) (renderItems depth (blankedAll xs))
  | [] => by
    intro _
    exact .ok .nil
  | x :: xs => by
    intro h
    obtain ⟨hx, hxs⟩ := Bool.and_eq_true_iff.1 h
    rw [blankedAll, renderItems, renderItems]
    exact (related_value depth x hx).bind fun ht =>
      (related_items depth xs hxs).bind fun hts => .ok (.cons ht hts)

theorem related_pieces (depth : Nat) : ∀ kvs : List (String × Value), areTameEntries kvs = true →
    Related (List.Forall₂ AlikePiece) (renderPieces depth kvs)
      (renderPieces depth (blankedEntries kvs))
  | [] => by
    intro _
    exact .ok .nil
  | (k, .null) :: r => by
    intro h
    exact related_cons k (.ok .nil) (related_pieces depth r (Bool.and_eq_true_iff.1 h).2)
  | (k, .block kvs) :: r => by
    intro h
    simp only [areTameEntries, isBlocks, isTame, Bool.not_true, Bool.false_or, Bool.and_eq_true] at h
    obtain ⟨⟨hk, hkvs⟩, hr⟩ := h
    refine related_cons k ?_ (related_pieces depth r hr)
    rw [blanked, renderEntry, renderEntry]
    refine (related_pieces (depth + 1) kvs hkvs).bind fun hbody => .ok (.cons (.block ?_) .nil)
    exact alike_blockLines depth (not_mem_of_isUnquoted hk) (alike_layout (depth + 1) hbody)
  | (k, .list xs) :: r => by
    intro h
    simp only [areTameEntries, isBlocks, isTame, Bool.and_eq_true, Bool.or_eq_true] at h
    obtain ⟨⟨hk, hxs⟩, hr⟩ := h
    refine related_cons k ?_ (related_pieces depth r hr)
    rw [blanked, renderEntry, renderEntry, isBlockList_blanked]
    by_cases hb : isBlockList xs = true
    · rw [if_pos hb, if_pos hb]
      have hk : isUnquoted k = true := by simpa [hb] using hk
      exact related_blocks depth (not_mem_of_isUnquoted hk) xs hxs
    · rw [if_neg hb, if_neg hb, renderValue, renderValue]
      exact related_attr k ((related_items depth xs hxs).bind fun hts => .ok (alike_list hts))
  | (k, .raw v) :: r | (k, .bool v) :: r | (k, .float v) :: r | (k, .str v) :: r | (k, .ref v) :: r
  | (k, .var v) :: r | (k, .int v) :: r | (k, .interp v) :: r | (k, .tuple v) :: r | (k, .map v) :: r
  | (k, .other v) :: r => by
    intro h
    rw [areTameEntries, Bool.and_eq_true, Bool.and_eq_true] at h
    exact related_cons k (related_attr k (related_value depth _ h.1.2)) (related_pieces depth r h.2)

theorem related_blocks (depth : Nat) {k : String} (hk : '"' ∉ k.toList) : ∀ xs : List Value,
    areTame xs = true →
      Related (List.Forall₂ AlikePiece) (renderBlocks depth k xs)
        (renderBlocks depth k (blankedAll xs))
  | [] => by
    intro _
    exact .ok .nil
  | .block kvs :: r => by
    intro h
    obtain ⟨hkvs, hr⟩ := Bool.and_eq_true_iff.1 h
    rw [blankedAll, blanked, renderBlocks, renderBlocks]
    exact (related_pieces (depth + 1) kvs hkvs).bind fun hbody =>
      (related_blocks depth hk r hr).bind fun hrest =>
        .ok (.cons (.block (alike_blockLines depth hk (alike_layout (depth + 1) hbody))) hrest)
  | .null :: r | .bool _ :: r | .int _ :: r | .float _ :: r | .str _ :: r | .list _ :: r
  | .tuple _ :: r | .map _ :: r | .ref _ :: r | .var _ :: r | .interp _ :: r | .raw _ :: r
  | .other _ :: r => by
    intro h
    simp only [blankedAll, blanked, renderBlocks]
    exact related_blocks depth hk r (Bool.and_eq_true_iff.1 h).2
end

/-! ## Bodies -/

/-- What can be seen of the lines of a body without reading its literals. -/
structure Outline where
  text : String
  /-- The lines as they were written, each of which may hold line breaks. -/
  lines : Nat
  breaks : Nat
  deriving DecidableEq, Repr

def outline (ls : List String) : Outline where
  text := skeleton (unlines ls)
  lines := ls.length
  breaks := (unlines ls).toList.count '\n'

theorem outline_congr {ls ls' : List String} (h : AlikeLines ls ls') : outline ls = outline ls' := by
  have htext := alike_unlines h
  have hskeleton : skeleton (unlines ls) = skeleton (unlines ls') := by
    have hchars := htext.skeletons (a := []) (b := []) rfl
    rw [List.append_nil, List.append_nil] at hchars
    rw [skeleton, skeleton, hchars]
  rw [outline, outline, hskeleton, h.length_eq, htext.breaks]

/-- The outline of a body is that of the body in which every text is empty. -/
theorem outline_blanked (depth : Nat) {attrs : Attributes} (h : areTameEntries attrs = true) :
    (renderBody depth attrs).map outline = (renderBody depth (blankedEntries attrs)).map outline := by
  have hbody : Related AlikeLines (renderBody depth attrs) (renderBody depth (blankedEntries attrs)) :=
    (related_pieces depth attrs h).bind fun hps => .ok (alike_layout depth hps)
  exact hbody.map_eq outline_congr

/-- **Texts do not shape what is written.** Two bodies that differ only in their texts both have a
written form or neither has, for the same reason, and their written forms have one outline. -/
theorem renderBody_outline (depth : Nat) {attrs attrs' : Attributes}
    (h : areTameEntries attrs = true) (h' : areTameEntries attrs' = true)
    (heq : blankedEntries attrs = blankedEntries attrs') :
    (renderBody depth attrs).map outline = (renderBody depth attrs').map outline := by
  rw [outline_blanked depth h, heq, ← outline_blanked depth h']

/-- A text that would end its literal, close the block and open another one. -/
theorem renderBody_outline_breakout :
    let rule (name : String) : Attributes :=
      [("rule", .block [("name", .str name), ("port", .int 22)])]
    (renderBody 1 (rule "\"\n\x7d\nprovider \"x\" \x7b")).map outline =
      (renderBody 1 (rule "ssh")).map outline :=
  renderBody_outline 1 (by decide) (by decide) rfl

end CloudScaffold.Hcl
