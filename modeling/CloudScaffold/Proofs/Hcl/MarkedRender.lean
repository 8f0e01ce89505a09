import CloudScaffold.Proofs.Hcl.Marked
import CloudScaffold.Proofs.Lists
/-!
# Rendering with marks

The renderer once more, writing marked text. With the marks off it is the renderer itself, faults
included (`markValue_erase`, `markPieces_erase`), so its pointers are the ones that the renderer
writes. Main statement: these are just what the walk `Value.refs` finds, in the same order
(`pointers_markPieces`): no value can be written that hides a pointer from the walk.
-/
namespace CloudScaffold.Hcl

open Number

/-! ## The marked renderer -/

/-- A part of an interpolation between its quotes. -/
def markPart : Value → Except RenderError Marked
  | .str s | .raw s => .ok [.plain (escape s)]
  | .ref r => .ok [.plain "$\x7b", .pointer (.ref r), .plain "\x7d"]
  | .var n => .ok [.plain "$\x7b", .pointer (.var n), .plain "\x7d"]
  | _ => .error .noExpression

/-- A list of written items in its brackets. -/
def listMarked (ms : List Marked) : Marked := .plain "[" :: Marked.join ", " ms ++ [.plain "]"]

/-- The lines of an object between its braces. -/
def objectMarked (depth : Nat) (body : List Marked) : Marked :=
  .plain "\x7b\n" :: Marked.join "\n" body ++ [.plain "\n", .plain (indent depth), .plain "\x7d"]

/-- A block around its body. -/
def blockMarked (depth : Nat) (header : String) (body : List Marked) : List Marked :=
  [[.plain (indent depth ++ header ++ " \x7b")]] ++ body ++ [[.plain (indent depth ++ "\x7d")]]

mutual
/-- A value as an expression. -/
def markValue (depth : Nat) : Value → Except RenderError Marked
  | .raw s => .ok [.plain s]
  | .bool b => .ok [.plain (if b then "true" else "false")]
  | .int n => ((writeInt n).mapError .number).map ([.plain ·])
  | .float x => .ok [.plain x.text]
  | .str s => .ok [.plain (quote s)]
  | .ref r => .ok [.pointer (.ref r)]
  | .var n => .ok [.pointer (.var n)]
  | .interp ps => do .ok (.plain "\"" :: Marked.join "" (← ps.mapM markPart) ++ [.plain "\""])
  | .list xs | .tuple xs => do .ok (listMarked (← markItems depth xs))
  | .map [] => .ok [.plain "\x7b\x7d"]
  | .map kvs => do .ok (objectMarked depth (markedLayout (depth + 1) (← markPieces (depth + 1) kvs)))
  | v => .error (.unrenderable v.kindName)

def markItems (depth : Nat) : List Value → Except RenderError (List Marked)
  | [] => .ok []
  | x :: xs => do
    let m ← markValue depth x
    let ms ← markItems depth xs
    .ok (m :: ms)

/-- The attributes and blocks of a body, in order. -/
def markPieces (depth : Nat) : List (String × Value) → Except RenderError (List MarkedPiece)
  | [] => .ok []
  | (k, v) :: r => do
    let here ← match v with
      | .null => .ok []
      | .block kvs => do
        .ok [.block (blockMarked depth k (markedLayout (depth + 1) (← markPieces (depth + 1) kvs)))]
      | .list xs =>
        if isBlockList xs then markBlocks depth k xs
        else do .ok [.attr (objectKey k) (listMarked (← markItems depth xs))]
      | v => do .ok [.attr (objectKey k) (← markValue depth v)]
    .ok (here ++ (← markPieces depth r))

/-- The blocks of a list, all under one name. -/
def markBlocks (depth : Nat) (k : String) : List Value → Except RenderError (List MarkedPiece)
  | [] => .ok []
  | .block kvs :: r => do
    let body ← markPieces (depth + 1) kvs
    let rest ← markBlocks depth k r
    .ok (.block (blockMarked depth k (markedLayout (depth + 1) body)) :: rest)
  | _ :: r => markBlocks depth k r
end

/-- The pieces of one entry of a body. -/
def markEntry (depth : Nat) (k : String) : Value → Except RenderError (List MarkedPiece)
  | .null => .ok []
  | .block kvs => do
    .ok [.block (blockMarked depth k (markedLayout (depth + 1) (← markPieces (depth + 1) kvs)))]
  | .list xs =>
    if isBlockList xs then markBlocks depth k xs
    else do .ok [.attr (objectKey k) (listMarked (← markItems depth xs))]
  | v => do .ok [.attr (objectKey k) (← markValue depth v)]

theorem markPieces_cons (depth : Nat) (k : String) (v : Value) (r : List (String × Value)) :
    markPieces depth ((k, v) :: r) =
      markEntry depth k v >>= fun here => markPieces depth r >>= fun rest => .ok (here ++ rest) := by
  cases v with
  | list xs =>
    by_cases hb : isBlockList xs = true
    · simp only [markPieces, markEntry, hb, if_true]
    · simp only [markPieces, markEntry, hb, Bool.false_eq_true, if_false, bind_assoc]
  | _ => simp only [markPieces, markEntry, bind_assoc]

/-! ## Marks come off -/

theorem markPart_erase : ∀ v : Value, (markPart v).map Marked.text = renderPart v
  | .str s | .raw s => by simp [markPart, renderPart, Except.map, Marked.text]
  | .ref r => by
    simp [markPart, renderPart, Except.map, Marked.text, Pointer.expression, String.append_assoc]
  | .var n => by
    have hv : "$\x7bvar." = "$\x7b" ++ "var." := by decide
    rw [markPart, renderPart, hv]
    simp only [Except.map, Marked.text, Pointer.expression, String.append_assoc, String.append_empty]
  | .null | .bool _ | .int _ | .float _ | .list _ | .tuple _ | .map _ | .block _ | .interp _
  | .other _ => rfl

theorem text_listMarked (ms : List Marked) :
    Marked.text (listMarked ms) = "[" ++ ", ".intercalate (ms.map Marked.text) ++ "]" := by
  simp [listMarked, Marked.text, Marked.text_join, String.append_assoc]

theorem text_objectMarked (depth : Nat) (body : List Marked) :
    Marked.text (objectMarked depth body) = objectText depth (body.map Marked.text) := by
  simp [objectMarked, objectText, unlines, Marked.text, Marked.text_join, String.append_assoc]

theorem text_blockMarked (depth : Nat) (header : String) (body : List Marked) :
    (blockMarked depth header body).map Marked.text =
      blockLines depth header (body.map Marked.text) := by
  simp [blockMarked, blockLines, Marked.text]

mutual
/-- **Marked rendering is rendering**, once the marks are off. -/
theorem markValue_erase (depth : Nat) : ∀ v : Value,
    (markValue depth v).map Marked.text = renderValue depth v
  | .raw s | .bool _ | .float _ | .str _ | .ref _ | .var _ => by
    simp [markValue, renderValue, Except.map, Marked.text, Pointer.expression]
  | .int n => by
    simp only [markValue, renderValue]
    cases writeInt n <;> simp [Except.map, Except.mapError, Marked.text]
  | .interp ps => by
    simp only [markValue, renderValue, ← mapM_erase markPart_erase]
    cases ps.mapM markPart with
    | error e => rfl
    | ok ms => simp [bind, Except.bind, Except.map, Marked.text, Marked.text_join, String.append_assoc]
  | .list xs => by
    simp only [markValue, renderValue, ← markItems_erase depth xs]
    cases markItems depth xs with
    | error e => rfl
    | ok ms => simp [bind, Except.bind, Except.map, text_listMarked]
  | .tuple xs => by
    simp only [markValue, renderValue, ← markItems_erase depth xs]
    cases markItems depth xs with
    | error e => rfl
    | ok ms => simp [bind, Except.bind, Except.map, text_listMarked]
  | .map [] => by simp [markValue, renderValue, Except.map, Marked.text]
  | .map (kv :: kvs) => by
    simp only [markValue, renderValue, ← markPieces_erase (depth + 1) (kv :: kvs)]
    cases markPieces (depth + 1) (kv :: kvs) with
    | error e => rfl
    | ok ps => simp only [bind, Except.bind, Except.map, text_objectMarked, layout_erase]
  | .null | .block _ | .other _ => rfl

theorem markItems_erase (depth : Nat) : ∀ xs : List Value,
    (markItems depth xs).map (·.map Marked.text) = renderItems depth xs
  | [] => rfl
  | x :: xs => by
    simp only [markItems, renderItems, ← markValue_erase depth x, ← markItems_erase depth xs]
    cases markValue depth x with
    | error e => rfl
    | ok m => cases markItems depth xs <;> rfl

theorem markPieces_erase (depth : Nat) : ∀ kvs : List (String × Value),
    (markPieces depth kvs).map (·.map (·.erase)) = renderPieces depth kvs
  | [] => rfl
  | (k, .null) :: r => by
    simp only [markPieces, renderPieces, ← markPieces_erase depth r]
    cases markPieces depth r <;> rfl
  | (k, .block kvs) :: r => by
    simp only [markPieces, renderPieces, ← markPieces_erase depth r, ← markPieces_erase (depth + 1) kvs]
    cases markPieces (depth + 1) kvs with
    | error e => rfl
    | ok ps =>
      cases markPieces depth r with
      | error e => rfl
      | ok qs =>
        simp [bind, Except.bind, Except.map, MarkedPiece.erase, text_blockMarked, layout_erase]
  | (k, .list xs) :: r => by
    simp only [markPieces, renderPieces, ← markPieces_erase depth r]
    by_cases hb : isBlockList xs = true
    · simp only [hb, if_true, ← markBlocks_erase depth k xs]
      cases markBlocks depth k xs with
      | error e => rfl
      | ok ps => cases markPieces depth r <;> simp [bind, Except.bind, Except.map]
    · simp only [hb, Bool.false_eq_true, if_false, ← markItems_erase depth xs]
      cases markItems depth xs with
      | error e => rfl
      | ok ms =>
        cases markPieces depth r with
        | error e => rfl
        | ok qs => simp [bind, Except.bind, Except.map, MarkedPiece.erase, text_listMarked]
  | (k, .raw s) :: r | (k, .bool s) :: r | (k, .float s) :: r | (k, .str s) :: r | (k, .ref s) :: r
  | (k, .var s) :: r | (k, .int s) :: r | (k, .interp s) :: r | (k, .tuple s) :: r | (k, .map s) :: r
  | (k, .other s) :: r => by
    simp only [markPieces, renderPieces, ← markPieces_erase depth r, ← markValue_erase depth]
    generalize markValue depth _ = m
    cases m with
    | error e => rfl
    | ok m => cases markPieces depth r <;> rfl

theorem markBlocks_erase (depth : Nat) (k : String) : ∀ xs : List Value,
    (markBlocks depth k xs).map (·.map (·.erase)) = renderBlocks depth k xs
  | [] => rfl
  | .block kvs :: r => by
    simp only [markBlocks, renderBlocks, ← markBlocks_erase depth k r, ← markPieces_erase (depth + 1) kvs]
    cases markPieces (depth + 1) kvs with
    | error e => rfl
    | ok ps =>
      cases markBlocks depth k r with
      | error e => rfl
      | ok qs =>
        simp [bind, Except.bind, Except.map, MarkedPiece.erase, text_blockMarked, layout_erase]
  | .null :: r | .raw _ :: r | .bool _ :: r | .float _ :: r | .str _ :: r | .ref _ :: r | .var _ :: r
  | .int _ :: r | .interp _ :: r | .list _ :: r | .tuple _ :: r | .map _ :: r | .other _ :: r => by
    simp only [markBlocks, renderBlocks]
    exact markBlocks_erase depth k r
end

/-! ## The pointers that are written -/

theorem pointers_markPart {v : Value} {m : Marked} (h : markPart v = .ok m) :
    Marked.pointers m = v.refs := by
  cases v <;> cases h <;> rfl

theorem pointers_mapM_markPart : ∀ {ps : List Value} {ms : List Marked}, ps.mapM markPart = .ok ms →
    ms.flatMap Marked.pointers = Value.refsList ps
  | [], _, h => by cases h; rfl
  | p :: ps, _, h => by
    simp only [List.mapM_cons, bind_eq_ok] at h
    obtain ⟨m, hm, ms, hms, h⟩ := h
    cases h
    rw [List.flatMap_cons, pointers_markPart hm, pointers_mapM_markPart hms, Value.refsList]

theorem pointers_listMarked (ms : List Marked) :
    Marked.pointers (listMarked ms) = ms.flatMap Marked.pointers := by
  simp [listMarked, Marked.pointers, Marked.pointers_join]

theorem pointers_objectMarked (depth : Nat) (body : List Marked) :
    Marked.pointers (objectMarked depth body) = body.flatMap Marked.pointers := by
  simp [objectMarked, Marked.pointers, Marked.pointers_join]

theorem pointers_blockMarked (depth : Nat) (header : String) (body : List Marked) :
    (blockMarked depth header body).flatMap Marked.pointers = body.flatMap Marked.pointers := by
  simp [blockMarked, Marked.pointers]

/-- The pointers of a body, from those of its first entry and those of the rest. -/
theorem pointers_cons {depth : Nat} {k : String} {v : Value} {r : List (String × Value)}
    {ps : List MarkedPiece} (h : markPieces depth ((k, v) :: r) = .ok ps)
    (hv : ∀ {here}, markEntry depth k v = .ok here → here.flatMap (·.pointers) = v.refs)
    (hr : ∀ {rest}, markPieces depth r = .ok rest → rest.flatMap (·.pointers) = Value.refsEntries r) :
    ps.flatMap (·.pointers) = Value.refsEntries ((k, v) :: r) := by
  rw [markPieces_cons, bind_eq_ok] at h
  obtain ⟨here, hhere, h⟩ := h
  rw [bind_eq_ok] at h
  obtain ⟨rest, hrest, h⟩ := h
  cases h
  rw [List.flatMap_append, hv hhere, hr hrest, Value.refsEntries]

mutual
theorem pointers_markValue (depth : Nat) : ∀ (v : Value) {m : Marked}, markValue depth v = .ok m →
    Marked.pointers m = v.refs
  | .raw _ | .bool _ | .float _ | .str _ | .ref _ | .var _ => by
    intro h
    simp only [markValue, Except.ok.injEq] at h
    subst h
    simp [Marked.pointers, Value.refs]
  | .int n => by
    intro h
    rw [markValue] at h
    generalize writeInt n = w at h
    cases w <;> cases h
    rfl
  | .interp ps => by
    intro h
    simp only [markValue, bind_eq_ok] at h
    obtain ⟨ms, hms, h⟩ := h
    cases h
    rw [Value.refs, ← pointers_mapM_markPart hms]
    simp [Marked.pointers, Marked.pointers_join]
  | .list xs | .tuple xs => by
    intro h
    simp only [markValue, bind_eq_ok] at h
    obtain ⟨ms, hms, h⟩ := h
    cases h
    rw [pointers_listMarked, pointers_markItems depth hms, Value.refs]
  | .map [] => by
    intro h
    rw [markValue] at h
    cases h
    rfl
  | .map (kv :: kvs) => by
    intro h
    simp only [markValue, bind_eq_ok] at h
    obtain ⟨ps, hps, h⟩ := h
    cases h
    rw [pointers_objectMarked, pointers_markedLayout, pointers_markPieces (depth + 1) _ hps, Value.refs]
  | .null | .block _ | .other _ => by
    intro h
    cases h

theorem pointers_markItems (depth : Nat) : ∀ {xs : List Value} {ms : List Marked},
    markItems depth xs = .ok ms → ms.flatMap Marked.pointers = Value.refsList xs
  | [], _, h => by cases h; rfl
  | x :: xs, _, h => by
    simp only [markItems, bind_eq_ok] at h
    obtain ⟨m, hm, ms, hms, h⟩ := h
    cases h
    rw [List.flatMap_cons, pointers_markValue depth _ hm, pointers_markItems depth hms, Value.refsList]

/-- **What is written is what the walk finds**: the pointers in a body are those of its values, in
order. -/
theorem pointers_markPieces (depth : Nat) : ∀ (kvs : List (String × Value)) {ps : List MarkedPiece},
    markPieces depth kvs = .ok ps → ps.flatMap (·.pointers) = Value.refsEntries kvs
  | [] => by
    intro h
    cases h
    rfl
  | (k, .null) :: r => by
    intro h
    refine pointers_cons h (fun he => ?_) (pointers_markPieces depth r)
    cases he
    rfl
  | (k, .block kvs) :: r => by
    intro h
    refine pointers_cons h (fun he => ?_) (pointers_markPieces depth r)
    simp only [markEntry, bind_eq_ok] at he
    obtain ⟨ps, hps, he⟩ := he
    cases he
    rw [List.flatMap_singleton, MarkedPiece.pointers, pointers_blockMarked, pointers_markedLayout,
      pointers_markPieces (depth + 1) kvs hps, Value.refs]
  | (k, .list xs) :: r => by
    intro h
    refine pointers_cons h (fun he => ?_) (pointers_markPieces depth r)
    rw [markEntry] at he
    by_cases hb : isBlockList xs = true
    · rw [if_pos hb] at he
      exact pointers_markBlocks depth k xs (Bool.and_eq_true_iff.1 hb).2 he
    · rw [if_neg hb, bind_eq_ok] at he
      obtain ⟨ms, hms, he⟩ := he
      cases he
      rw [List.flatMap_singleton, MarkedPiece.pointers, pointers_listMarked,
        pointers_markItems depth hms, Value.refs]
  | (k, .raw _) :: r | (k, .bool _) :: r | (k, .float _) :: r | (k, .str _) :: r | (k, .ref _) :: r
  | (k, .var _) :: r | (k, .int _) :: r | (k, .interp _) :: r | (k, .tuple _) :: r | (k, .map _) :: r
  | (k, .other _) :: r => by
    intro h
    refine pointers_cons h (fun he => ?_) (pointers_markPieces depth r)
    simp only [markEntry, bind_eq_ok] at he
    obtain ⟨m, hm, he⟩ := he
    cases he
    rw [List.flatMap_singleton, MarkedPiece.pointers, pointers_markValue depth _ hm]

theorem pointers_markBlocks (depth : Nat) (k : String) : ∀ (xs : List Value) {ps : List MarkedPiece},
    xs.all (·.isBlock) = true → markBlocks depth k xs = .ok ps →
    ps.flatMap (·.pointers) = Value.refsList xs
  | [] => by
    intro _ h
    cases h
    rfl
  | .block kvs :: r => by
    intro hb h
    simp only [markBlocks, bind_eq_ok] at h
    obtain ⟨ps, hps, rest, hrest, h⟩ := h
    cases h
    have hr := pointers_markBlocks depth k r (by simpa [Value.isBlock] using hb) hrest
    rw [List.flatMap_cons, hr, MarkedPiece.pointers, pointers_blockMarked, pointers_markedLayout,
      pointers_markPieces (depth + 1) kvs hps, Value.refsList, Value.refs]
  | .null :: _ | .raw _ :: _ | .bool _ :: _ | .float _ :: _ | .str _ :: _ | .ref _ :: _ | .var _ :: _
  | .int _ :: _ | .interp _ :: _ | .list _ :: _ | .tuple _ :: _ | .map _ :: _ | .other _ :: _ => by
    intro hb
    simp [Value.isBlock] at hb
end

end CloudScaffold.Hcl
