import CloudScaffold.Hcl.Render
import CloudScaffold.Proofs.Hcl.Quoted
import CloudScaffold.Proofs.Number.Numeral
/-!
# Written data can be told apart

Plain data (booleans, whole numbers, texts, and lists and mappings of these) has a written form at
every depth, and different data is written differently (`renderValue_lossless`). `dataChars` is that
form as one list of characters. What carries the proof is that each form ends by itself: with two
forms that agree up to what stands behind them, the data agrees and so does what stands behind it
(`dataChars_cancel`). Numbers need one condition for this, that no digit follows; the comma, bracket
or line break behind a member of a list or a mapping meets it.

The columns in which the equals signs of two mappings stand need not be the same: a key ends at the
first space, however many of them follow.
-/
namespace CloudScaffold.Hcl

open Number

/-! ## Plain data and its written form -/

mutual
/-- Whether a value is plain data whose numbers can be written. -/
def isData : Value → Bool
  | .bool _ | .str _ => true
  | .int n => decide (n.natAbs < pow10 digitLimit)
  | .list xs => areData xs
  | .map kvs => areDataEntries kvs
  | _ => false

def areData : List Value → Bool
  | [] => true
  | x :: xs => isData x && areData xs

def areDataEntries : List (String × Value) → Bool
  | [] => true
  | (_, v) :: r => isData v && areDataEntries r
end

/-- The indentation of a depth. -/
def indentChars (depth : Nat) : List Char := List.replicate (2 * depth) ' '

/-- A key up to its value, with the equals sign after `width` characters of key. -/
def keyChars (width : Nat) (k : String) : List Char :=
  (objectKey k).toList ++ List.replicate (width - (objectKey k).length + 1) ' ' ++ ['=', ' ']

/-- The length of the longest key of some entries. -/
def entryWidth (kvs : List (String × Value)) : Nat :=
  keyWidth (kvs.map fun kv => (objectKey kv.1, ""))

mutual
/-- The written form of plain data. -/
def dataChars (depth : Nat) : Value → List Char
  | .bool b => (if b then "true" else "false").toList
  | .int n => (showInt n).toList
  | .str s => (quote s).toList
  | .list [] => ['[', ']']
  | .list (x :: xs) => '[' :: dataChars depth x ++ itemChars depth xs
  | .map [] => ['\x7b', '\x7d']
  | .map (kv :: kvs) => '\x7b' :: entryChars depth (entryWidth (kv :: kvs)) (kv :: kvs)
  | _ => []

/-- The items of a list behind its first one, and the closing bracket. -/
def itemChars (depth : Nat) : List Value → List Char
  | [] => [']']
  | x :: xs => ',' :: ' ' :: dataChars depth x ++ itemChars depth xs

/-- The entries of a mapping, each on a line of its own, and the closing brace. -/
def entryChars (depth width : Nat) : List (String × Value) → List Char
  | [] => '\n' :: indentChars depth ++ ['\x7d']
  | (k, v) :: r =>
    '\n' :: indentChars (depth + 1) ++ keyChars width k ++ dataChars (depth + 1) v
      ++ entryChars depth width r
end

/-- The written form of plain data as a text. -/
def dataText (depth : Nat) (v : Value) : String := .ofList (dataChars depth v)

/-! ## The renderer writes this form -/

theorem isBlockList_of_areData : ∀ {xs : List Value}, areData xs = true → isBlockList xs = false
  | [], _ => rfl
  | x :: xs, h => by
    have hx : isData x = true := (Bool.and_eq_true_iff.1 h).1
    cases x <;> simp_all [isData, isBlockList, Value.isBlock]

/-- An entry with plain data is an attribute. -/
theorem renderEntry_of_isData {depth : Nat} {k : String} {v : Value} (hv : isData v = true) :
    renderEntry depth k v = renderValue depth v >>= fun t => .ok [.attr (objectKey k) t] := by
  cases v with
  | list xs => rw [renderEntry, isBlockList_of_areData hv, if_neg Bool.false_ne_true]
  | bool | int | str | map => rfl
  | _ => cases hv

theorem sections_attrs (kv : String × String) (kvs : List (String × String)) :
    sections ((kv :: kvs).map fun kv => .attr kv.1 kv.2) = [.run (kv :: kvs)] := by
  induction kvs generalizing kv with
  | nil => rfl
  | cons kv' kvs ih => rw [List.map_cons, sections, ih kv']

/-- Attributes alone are laid out as one run. -/
theorem layout_attrs (depth : Nat) {kvs : List (String × String)} (h : kvs ≠ []) :
    layout depth (kvs.map fun kv => .attr kv.1 kv.2) = kvs.map (attrLine depth (keyWidth kvs)) := by
  obtain ⟨kv, kvs, rfl⟩ := List.exists_cons_of_ne_nil h
  rw [layout, sections_attrs]
  simp [Section.lines, List.intercalate]

theorem toList_commas (t : String) (ts : List String) :
    (", ".intercalate (t :: ts)).toList = t.toList ++ ts.flatMap (',' :: ' ' :: ·.toList) := by
  simp [intercalate_cons, List.flatMap_map]

theorem toList_attrLine (depth width : Nat) (k t : String) :
    (attrLine depth width (objectKey k, t)).toList =
      indentChars depth ++ keyChars width k ++ t.toList := by
  simp [attrLine, indent, padKey, indentChars, keyChars, List.replicate_succ']

/-- An object is its lines, each behind its line break, and the closing brace on a line of its own. -/
theorem toList_objectText (depth : Nat) {body : List String} (h : body ≠ []) :
    (objectText depth body).toList =
      '\x7b' :: (body.flatMap ('\n' :: ·.toList) ++ '\n' :: indentChars depth ++ ['\x7d']) := by
  obtain ⟨l, ls, rfl⟩ := List.exists_cons_of_ne_nil h
  simp [objectText, unlines, indent, indentChars, intercalate_cons, List.flatMap_map]

/-- An entry with plain data, written. -/
def writtenEntry (depth : Nat) (kv : String × Value) : String × String :=
  (objectKey kv.1, dataText depth kv.2)

theorem itemChars_eq (depth : Nat) (xs : List Value) :
    itemChars depth xs = (xs.map (dataText depth)).flatMap (',' :: ' ' :: ·.toList) ++ [']'] := by
  induction xs with
  | nil => simp [itemChars]
  | cons x xs ih => simp [itemChars, ih, dataText]

theorem entryChars_eq (depth width : Nat) (kvs : List (String × Value)) :
    entryChars depth width kvs =
      (kvs.map fun kv => attrLine (depth + 1) width (writtenEntry (depth + 1) kv)).flatMap
        ('\n' :: ·.toList) ++ '\n' :: indentChars depth ++ ['\x7d'] := by
  induction kvs with
  | nil => simp [entryChars]
  | cons kv kvs ih => simp [entryChars, ih, toList_attrLine, writtenEntry, dataText]

mutual
/-- **Plain data can be written**, and `dataChars` is how. -/
theorem renderValue_of_isData (depth : Nat) : ∀ v : Value, isData v = true →
    renderValue depth v = .ok (dataText depth v)
  | .bool b => by
    intro _
    rw [renderValue, dataText, dataChars, String.ofList_toList]
  | .int n => by
    intro hn
    rw [isData, decide_eq_true_iff] at hn
    rw [renderValue, writeInt, if_neg (Nat.not_le.2 hn), dataText, dataChars, String.ofList_toList]
    rfl
  | .str s => by
    intro _
    rw [renderValue, dataText, dataChars, String.ofList_toList]
  | .list [] => by
    intro _
    rfl
  | .list (x :: xs) => by
    intro hxs
    rw [renderValue, renderItems_of_areData depth (x :: xs) hxs]
    refine congrArg Except.ok (String.toList_inj.1 ?_)
    simp only [List.map_cons, String.toList_append, toList_commas, dataText, dataChars, itemChars_eq]
    simp
  | .map [] => by
    intro _
    rfl
  | .map (kv :: kvs) => by
    intro hkvs
    have hkeys : keyWidth ((kv :: kvs).map (writtenEntry (depth + 1))) = entryWidth (kv :: kvs) :=
      keyWidth_congr (by simp [writtenEntry])
    rw [renderValue, renderPieces_of_areData (depth + 1) (kv :: kvs) hkvs]
    · refine congrArg Except.ok (String.toList_inj.1 ?_)
      rw [layout_attrs _ (by simp), toList_objectText _ (by simp), hkeys, dataText, dataChars,
        String.toList_ofList, entryChars_eq, List.map_map]
      rfl
    · exact List.cons_ne_nil _ _
  | .null | .float _ | .tuple _ | .block _ | .ref _ | .var _ | .interp _ | .raw _ | .other _ => by
    intro h
    cases h

theorem renderItems_of_areData (depth : Nat) : ∀ xs : List Value, areData xs = true →
    renderItems depth xs = .ok (xs.map (dataText depth))
  | [] => fun _ => rfl
  | x :: xs => by
    intro h
    obtain ⟨hx, hxs⟩ := Bool.and_eq_true_iff.1 h
    rw [renderItems, renderValue_of_isData depth x hx, renderItems_of_areData depth xs hxs]
    rfl

theorem renderPieces_of_areData (depth : Nat) : ∀ kvs : List (String × Value),
    areDataEntries kvs = true →
      renderPieces depth kvs =
        .ok ((kvs.map (writtenEntry depth)).map fun kv => .attr kv.1 kv.2)
  | [] => fun _ => rfl
  | (k, v) :: r => by
    intro h
    obtain ⟨hv, hr⟩ := Bool.and_eq_true_iff.1 h
    rw [renderPieces_cons, renderEntry_of_isData hv, renderValue_of_isData depth v hv,
      renderPieces_of_areData depth r hr]
    rfl
end

/-! ## Keys -/

/-- A written key tells itself from what stands behind it, if that is a space. -/
theorem objectKey_cancel {k l : String} {a b : List Char}
    (h : (objectKey k).toList ++ ' ' :: a = (objectKey l).toList ++ ' ' :: b) : k = l ∧ a = b := by
  unfold objectKey at h
  by_cases hk : isIdentifier (dropLineEnd k.toList) = true <;>
    by_cases hl : isIdentifier (dropLineEnd l.toList) = true
  · rw [if_pos hk, if_pos hl] at h
    have bare {k : String} (hk : isIdentifier (dropLineEnd k.toList) = true) :
        ∀ c ∈ k.toList, (c != ' ') = true :=
      fun c hc => bne_iff_ne.2 ((isBare_key hk).2 c hc).2
    obtain ⟨hkl, hab⟩ := append_cancel_of_span (bare hk) (bare hl) (by simp) (by simp) h
    exact ⟨String.toList_inj.1 hkl, (List.cons.inj hab).2⟩
  · rw [if_pos hk, if_neg hl] at h
    exact absurd h (bare_ne_quote hk)
  · rw [if_neg hk, if_pos hl] at h
    exact absurd h.symm (bare_ne_quote hl)
  · rw [if_neg hk, if_neg hl] at h
    obtain ⟨rfl, hab⟩ := quote_cancel h
    exact ⟨rfl, (List.cons.inj hab).2⟩

/-- A key and its equals sign tell themselves from the value, whatever the columns are. -/
theorem keyChars_cancel {m n : Nat} {k l : String} {a b : List Char}
    (h : keyChars m k ++ a = keyChars n l ++ b) : k = l ∧ a = b := by
  simp only [keyChars, List.replicate_succ, List.append_assoc, List.cons_append] at h
  obtain ⟨rfl, hspaces⟩ := objectKey_cancel h
  have hall (i : Nat) : ∀ c ∈ List.replicate i ' ', (c == ' ') = true := by
    intro c hc
    rw [List.eq_of_mem_replicate hc]
    rfl
  obtain ⟨_, hab⟩ := append_cancel_of_span (hall _) (hall _) (by simp) (by simp) hspaces
  exact ⟨rfl, by simpa using hab⟩

/-! ## Values -/

/-- The kind of plain data that a first character announces. -/
def kindAt (c : Char) : String :=
  if c = 't' ∨ c = 'f' then "bool" else if c = '"' then "str" else if c = '[' then "list"
  else if c = '\x7b' then "dict" else "int"

theorem kindAt_of_isDigit {c : Char} (h : c.isDigit = true) : c ≠ ']' ∧ kindAt c = "int" := by
  have apart : ∀ d ∈ ['t', 'f', '"', '[', '\x7b', ']'], c ≠ d := by
    rintro d hd rfl
    have hno : ['t', 'f', '"', '[', '\x7b', ']'].all (!·.isDigit) = true := by decide
    have hc := List.all_eq_true.1 hno c hd
    rw [h] at hc
    cases hc
  simp only [List.forall_mem_cons] at apart
  simp [kindAt, apart]

/-- The first character of plain data announces its kind, and is not the end of a list. -/
theorem exists_first (depth : Nat) {v : Value} (hv : isData v = true) :
    ∃ c r, dataChars depth v = c :: r ∧ c ≠ ']' ∧ kindAt c = v.kindName := by
  cases v with
  | bool b => cases b <;> exact ⟨_, _, rfl, by decide, rfl⟩
  | int n =>
    rw [dataChars, toList_showInt]
    by_cases hn : n < 0
    · exact ⟨_, _, if_pos hn, by decide, rfl⟩
    · obtain ⟨d, ds, hds⟩ :=
        List.exists_cons_of_ne_nil (Nat.toDigits_ne_nil (n := n.natAbs) (b := 10))
      refine ⟨d, ds, (if_neg hn).trans hds, ?_⟩
      exact kindAt_of_isDigit (isDigit_of_mem_toDigits (n := n.natAbs) (hds ▸ List.mem_cons_self))
  | str s => exact ⟨_, _, toList_quote s, by decide, rfl⟩
  | list xs => cases xs <;> exact ⟨_, _, rfl, by decide, rfl⟩
  | map kvs => cases kvs <;> exact ⟨_, _, rfl, by decide, rfl⟩
  | _ => cases hv

theorem kindName_eq {depth : Nat} {v w : Value} {a b : List Char} (hv : isData v = true)
    (hw : isData w = true) (h : dataChars depth v ++ a = dataChars depth w ++ b) :
    v.kindName = w.kindName := by
  obtain ⟨c, r, hc, _, hkind⟩ := exists_first depth hv
  obtain ⟨d, s, hd, _, hkind'⟩ := exists_first depth hw
  rw [hc, hd] at h
  rw [← hkind, ← hkind', (List.cons.inj h).1]

theorem dataChars_ne_bracket {depth : Nat} {v : Value} {a r : List Char} (hv : isData v = true) :
    dataChars depth v ++ a ≠ ']' :: r := by
  intro h
  obtain ⟨c, s, hc, hne, _⟩ := exists_first depth hv
  rw [hc] at h
  exact hne (List.cons.inj h).1

theorem endsNumber_itemChars {depth : Nat} {xs : List Value} {a : List Char} :
    EndsNumber (itemChars depth xs ++ a) := by
  cases xs <;> simp [EndsNumber, itemChars]

theorem endsNumber_entryChars {depth width : Nat} {kvs : List (String × Value)} {a : List Char} :
    EndsNumber (entryChars depth width kvs ++ a) := by
  cases kvs <;> simp [EndsNumber, entryChars]

theorem indentChars_succ (depth : Nat) :
    indentChars (depth + 1) = indentChars depth ++ [' ', ' '] := by
  simp [indentChars, Nat.mul_add, List.replicate_add]

/-- The closing brace of an object is indented less than an entry of it. -/
theorem brace_ne_entry {depth : Nat} {a b : List Char} :
    indentChars depth ++ '\x7d' :: a ≠ indentChars (depth + 1) ++ b := by
  intro h
  rw [indentChars_succ, List.append_assoc] at h
  have hfirst := List.append_cancel_left h
  simp at hfirst

mutual
/-- **Written data ends by itself.** -/
theorem dataChars_cancel (depth : Nat) : ∀ (v w : Value) {a b : List Char},
    isData v = true → isData w = true → EndsNumber a → EndsNumber b →
      dataChars depth v ++ a = dataChars depth w ++ b → v = w ∧ a = b
  | .bool s, w => by
    intro hv hw _ _ h
    have hkind := kindName_eq hv hw h
    cases w with
    | bool t => cases s <;> cases t <;> simp_all [dataChars]
    | _ => simp [Value.kindName, isData] at hkind hw
  | .int m, w => by
    intro hv hw ha hb h
    have hkind := kindName_eq hv hw h
    cases w with
    | int n =>
      obtain ⟨rfl, hab⟩ := showInt_cancel ha hb h
      exact ⟨rfl, hab⟩
    | _ => simp [Value.kindName, isData] at hkind hw
  | .str s, w => by
    intro hv hw _ _ h
    have hkind := kindName_eq hv hw h
    cases w with
    | str t =>
      obtain ⟨rfl, hab⟩ := quote_cancel h
      exact ⟨rfl, hab⟩
    | _ => simp [Value.kindName, isData] at hkind hw
  | .list xs, w => by
    intro hv hw _ _ h
    have hkind := kindName_eq hv hw h
    cases w with
    | list ys =>
      obtain ⟨rfl, hab⟩ := listChars_cancel depth xs ys hv hw h
      exact ⟨rfl, hab⟩
    | _ => simp [Value.kindName, isData] at hkind hw
  | .map kvs, w => by
    intro hv hw _ _ h
    have hkind := kindName_eq hv hw h
    cases w with
    | map kvs' =>
      match kvs, kvs' with
      | [], [] => exact ⟨rfl, by simpa [dataChars] using h⟩
      | [], _ :: _ => simp [dataChars, entryChars] at h
      | _ :: _, [] => simp [dataChars, entryChars] at h
      | kv :: kvs, kv' :: kvs' =>
        obtain ⟨heq, hab⟩ :=
          entryChars_cancel depth (kv :: kvs) (kv' :: kvs') hv hw (List.cons.inj h).2
        exact ⟨congrArg _ heq, hab⟩
    | _ => simp [Value.kindName, isData] at hkind hw
  | .null, _ | .float _, _ | .tuple _, _ | .block _, _ | .ref _, _ | .var _, _ | .interp _, _
  | .raw _, _ | .other _, _ => by
    intro hv
    cases hv

theorem listChars_cancel (depth : Nat) : ∀ (xs ys : List Value) {a b : List Char},
    areData xs = true → areData ys = true →
      dataChars depth (.list xs) ++ a = dataChars depth (.list ys) ++ b → xs = ys ∧ a = b
  | [], [] => by
    intro _ _ h
    exact ⟨rfl, by simpa [dataChars] using h⟩
  | [], y :: ys => by
    intro _ hys h
    simp only [dataChars, List.cons_append, List.append_assoc, List.nil_append] at h
    exact absurd (List.cons.inj h).2.symm (dataChars_ne_bracket (Bool.and_eq_true_iff.1 hys).1)
  | x :: xs, [] => by
    intro hxs _ h
    simp only [dataChars, List.cons_append, List.append_assoc, List.nil_append] at h
    exact absurd (List.cons.inj h).2 (dataChars_ne_bracket (Bool.and_eq_true_iff.1 hxs).1)
  | x :: xs, y :: ys => by
    intro hxs hys h
    obtain ⟨hx, hxs'⟩ := Bool.and_eq_true_iff.1 hxs
    obtain ⟨hy, hys'⟩ := Bool.and_eq_true_iff.1 hys
    simp only [dataChars, List.cons_append, List.append_assoc, List.cons.injEq, true_and] at h
    obtain ⟨rfl, htail⟩ := dataChars_cancel depth x y hx hy endsNumber_itemChars
      endsNumber_itemChars h
    obtain ⟨rfl, hab⟩ := itemChars_cancel depth xs ys hxs' hys' htail
    exact ⟨rfl, hab⟩

theorem itemChars_cancel (depth : Nat) : ∀ (xs ys : List Value) {a b : List Char},
    areData xs = true → areData ys = true →
      itemChars depth xs ++ a = itemChars depth ys ++ b → xs = ys ∧ a = b
  | [], [] => by
    intro _ _ h
    exact ⟨rfl, by simpa [itemChars] using h⟩
  | [], y :: ys => by
    intro _ _ h
    simp [itemChars] at h
  | x :: xs, [] => by
    intro _ _ h
    simp [itemChars] at h
  | x :: xs, y :: ys => by
    intro hxs hys h
    obtain ⟨hx, hxs'⟩ := Bool.and_eq_true_iff.1 hxs
    obtain ⟨hy, hys'⟩ := Bool.and_eq_true_iff.1 hys
    simp only [itemChars, List.cons_append, List.append_assoc, List.cons.injEq, true_and] at h
    obtain ⟨rfl, htail⟩ := dataChars_cancel depth x y hx hy endsNumber_itemChars
      endsNumber_itemChars h
    obtain ⟨rfl, hab⟩ := itemChars_cancel depth xs ys hxs' hys' htail
    exact ⟨rfl, hab⟩

theorem entryChars_cancel (depth : Nat) : ∀ (kvs kvs' : List (String × Value))
    {m n : Nat} {a b : List Char}, areDataEntries kvs = true →
      areDataEntries kvs' = true → entryChars depth m kvs ++ a = entryChars depth n kvs' ++ b →
        kvs = kvs' ∧ a = b
  | [], [] => by
    intro _ _ h
    exact ⟨rfl, by simpa [entryChars] using h⟩
  | [], (k, v) :: r => by
    intro _ _ h
    simp only [entryChars, List.cons_append, List.append_assoc, List.cons.injEq, true_and] at h
    exact absurd h brace_ne_entry
  | (k, v) :: r, [] => by
    intro _ _ h
    simp only [entryChars, List.cons_append, List.append_assoc, List.cons.injEq, true_and] at h
    exact absurd h.symm brace_ne_entry
  | (k, v) :: r, (k', v') :: r' => by
    intro hkvs hkvs' h
    obtain ⟨hv, hr⟩ := Bool.and_eq_true_iff.1 hkvs
    obtain ⟨hv', hr'⟩ := Bool.and_eq_true_iff.1 hkvs'
    simp only [entryChars, List.cons_append, List.append_assoc, List.cons.injEq, true_and] at h
    obtain ⟨rfl, hvalue⟩ := keyChars_cancel (List.append_cancel_left h)
    obtain ⟨rfl, htail⟩ := dataChars_cancel (depth + 1) v v' hv hv' endsNumber_entryChars
      endsNumber_entryChars hvalue
    obtain ⟨rfl, hab⟩ := entryChars_cancel depth r r' hr hr' htail
    exact ⟨rfl, hab⟩
end

/-- **Rendering loses nothing.** Plain data is written at every depth, and two values that are written
alike are the same value. -/
theorem renderValue_lossless (depth : Nat) {v w : Value} (hv : isData v = true) (hw : isData w = true) :
    (∃ t, renderValue depth v = .ok t) ∧ (renderValue depth v = renderValue depth w → v = w) := by
  refine ⟨⟨_, renderValue_of_isData depth v hv⟩, fun h => ?_⟩
  rw [renderValue_of_isData depth v hv, renderValue_of_isData depth w hw, Except.ok.injEq] at h
  have hchars : dataChars depth v ++ [] = dataChars depth w ++ [] := by
    simpa [dataText, ← String.toList_inj] using h
  exact (dataChars_cancel depth v w hv hw (by simp [EndsNumber]) (by simp [EndsNumber]) hchars).1

/-- A number and a text of the same digits, below the same key. -/
theorem renderValue_lossless_digits :
    renderValue 1 (.map [("port", .list [.int 80])]) ≠
      renderValue 1 (.map [("port", .list [.str "80"])]) := by
  intro h
  have heq := (renderValue_lossless 1 (by decide +kernel) (by decide +kernel)).2 h
  simp at heq

end CloudScaffold.Hcl
