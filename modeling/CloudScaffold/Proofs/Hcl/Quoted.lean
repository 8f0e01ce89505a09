import CloudScaffold.Hcl.Quoted
/-!
# Quoted literals read back

`scanLiteral` reads a quoted template the way the language does, one rule after the other, with no
knowledge of how literals are written here. Main statement: `scan_quote`, a quoted text closes at its
last character, opens no template on the way and reads as the text.

`escapeChars` goes over a text once; `escapeChars_eq_inTurn` says that this is what the seven
replacements come to when they are made one after the other, each on the whole text.
-/
namespace CloudScaffold.Hcl

/-! ## Reading -/

/-- What the characters behind an opening quote come to. -/
inductive Literal where
  /-- The text of the literal, and what follows its closing quote. -/
  | closed (text rest : List Char)
  /-- A live template starts within the literal. -/
  | live
  /-- No closing quote. -/
  | endless
  deriving DecidableEq

/-- A character in front of the text of a literal. -/
def Literal.cons (c : Char) : Literal → Literal
  | closed text rest => closed (c :: text) rest
  | live => live
  | endless => endless

/-- Reads a quoted template from behind its opening quote. -/
def scanLiteral : List Char → Literal
  | [] => .endless
  | '"' :: r => .closed [] r
  | '\\' :: '\\' :: r => (scanLiteral r).cons '\\'
  | '\\' :: '"' :: r => (scanLiteral r).cons '"'
  | '\\' :: 'n' :: r => (scanLiteral r).cons '\n'
  | '\\' :: 'r' :: r => (scanLiteral r).cons '\r'
  | '\\' :: 't' :: r => (scanLiteral r).cons '\t'
  | '$' :: '$' :: '{' :: r => ((scanLiteral r).cons '{').cons '$'
  | '%' :: '%' :: '{' :: r => ((scanLiteral r).cons '{').cons '%'
  | '$' :: '{' :: _ => .live
  | '%' :: '{' :: _ => .live
  | c :: r => (scanLiteral r).cons c

example : scanLiteral ['a', '$', '{', 'b', '"'] = .live := by decide

/-- Whether characters start with the opening of a template. -/
def Opens (cs : List Char) : Prop := ∃ c r, (c = '$' ∨ c = '%') ∧ cs = c :: '{' :: r

/-- A character that is no quote and no backslash, and opens no template, live or doubled, stands for
itself. -/
theorem scanLiteral_plain {c : Char} {r : List Char} (hq : c ≠ '"') (hb : c ≠ '\\')
    (ho : ¬ Opens (c :: r)) (hd : ¬ Opens r) : scanLiteral (c :: r) = (scanLiteral r).cons c := by
  rw [scanLiteral.eq_def]
  split <;> simp_all [Opens]

/-! ## What is written -/

/-- The marks and breaks that are written as pairs. -/
def IsPaired (c : Char) : Prop := c = '\\' ∨ c = '"' ∨ c = '\n' ∨ c = '\r' ∨ c = '\t'

theorem escapeChar_of_not_paired {c : Char} (h : ¬ IsPaired c) : escapeChar c = [c] := by
  simp only [IsPaired, not_or] at h
  simp [escapeChar, h]

theorem opensTemplate_iff {c : Char} {r : List Char} : opensTemplate c r = true ↔ Opens (c :: r) := by
  cases r with
  | nil => simp [opensTemplate, Opens]
  | cons d r =>
    simp only [opensTemplate, Opens, List.head?_cons, Bool.and_eq_true, Bool.or_eq_true, beq_iff_eq,
      Option.some.injEq, List.cons.injEq]
    constructor
    · rintro ⟨hc, rfl⟩
      exact ⟨c, r, hc, rfl, rfl, rfl⟩
    · rintro ⟨c', r', hc, rfl, rfl, rfl⟩
      exact ⟨hc, rfl⟩

/-- A character that opens a template is written twice, any other one as its escape. -/
theorem escapeChars_opens {c : Char} {r : List Char} (h : Opens (c :: r)) :
    escapeChars (c :: r) = c :: c :: escapeChars r := by
  rw [escapeChars, if_pos (opensTemplate_iff.2 h)]
  rfl

theorem escapeChars_of_not_opens {c : Char} {r : List Char} (h : ¬ Opens (c :: r)) :
    escapeChars (c :: r) = escapeChar c ++ escapeChars r := by
  rw [escapeChars, if_neg fun ho => h (opensTemplate_iff.1 ho)]

/-- Escaping moves no brace to the front. -/
theorem head_escapeChars {cs tail : List Char} (ht : tail.head? ≠ some '{') :
    (escapeChars cs ++ tail).head? = some '{' ↔ cs.head? = some '{' := by
  cases cs with
  | nil => simpa [escapeChars] using ht
  | cons c r =>
    by_cases ho : Opens (c :: r)
    · simp [escapeChars_opens ho]
    · rw [escapeChars_of_not_opens ho]
      by_cases hp : IsPaired c
      · rcases hp with rfl | rfl | rfl | rfl | rfl <;> simp [escapeChar]
      · simp [escapeChar_of_not_paired hp]

/-- Where no template opened, none opens after escaping. -/
theorem not_opens_cons {c : Char} {r tail : List Char} (ht : tail.head? ≠ some '{')
    (ho : ¬ Opens (c :: r)) : ¬ Opens (c :: (escapeChars r ++ tail)) := by
  rintro ⟨d, rest, hd, heq⟩
  obtain ⟨rfl, hrest⟩ := List.cons.inj heq
  have hhead : (escapeChars r ++ tail).head? = some '{' := by rw [hrest]; rfl
  rw [head_escapeChars ht] at hhead
  cases r with
  | nil => simp at hhead
  | cons b r =>
    obtain rfl : b = '{' := by simpa using hhead
    exact ho ⟨_, r, hd, rfl⟩

/-- **No escaped text opens a template.** -/
theorem not_opens_escapeChars {tail : List Char} (ht : tail.head? ≠ some '{') (hn : ¬ Opens tail)
    (cs : List Char) : ¬ Opens (escapeChars cs ++ tail) := by
  cases cs with
  | nil => exact hn
  | cons c r =>
    by_cases ho : Opens (c :: r)
    · -- the doubled character is followed by itself
      rw [escapeChars_opens ho]
      rintro ⟨d, rest, hd, heq⟩
      obtain ⟨rfl, heq⟩ := List.cons.inj heq
      rcases hd with rfl | rfl <;> simp at heq
    · rw [escapeChars_of_not_opens ho]
      by_cases hp : IsPaired c
      · rintro ⟨d, rest, hd, heq⟩
        rcases hp with rfl | rfl | rfl | rfl | rfl <;> simp [escapeChar] at heq
      · rw [escapeChar_of_not_paired hp]
        exact not_opens_cons ht ho

/-! ## Reading what is written -/

theorem scanLiteral_brace (r : List Char) : scanLiteral ('{' :: r) = (scanLiteral r).cons '{' := by
  rw [scanLiteral] <;> simp

/-- An escaped text with a closing quote reads as the text, whatever stands behind it. -/
theorem scan_escapeChars {rest : List Char} : ∀ cs : List Char,
    scanLiteral (escapeChars cs ++ '"' :: rest) = .closed cs rest
  | [] => rfl
  | c :: r => by
    have ih : scanLiteral (escapeChars r ++ '"' :: rest) = .closed r rest := scan_escapeChars r
    by_cases ho : Opens (c :: r)
    · rw [escapeChars_opens ho]
      obtain ⟨d, r', hd, heq⟩ := ho
      obtain ⟨rfl, rfl⟩ := List.cons.inj heq
      have hbrace : escapeChars ('{' :: r') = '{' :: escapeChars r' := by
        simp [escapeChars, opensTemplate, escapeChar]
      rw [hbrace, List.cons_append, scanLiteral_brace] at ih
      rw [hbrace]
      rcases hd with rfl | rfl <;>
      · rw [List.cons_append, List.cons_append, List.cons_append, scanLiteral, ih]
        rfl
    · rw [escapeChars_of_not_opens ho]
      by_cases hp : IsPaired c
      · rcases hp with rfl | rfl | rfl | rfl | rfl <;> simp [escapeChar, scanLiteral, ih, Literal.cons]
      · have hplain := hp
        simp only [IsPaired, not_or] at hplain
        have hend : ¬ Opens ('"' :: rest) := by simp [Opens]
        rw [escapeChar_of_not_paired hp, List.append_assoc, List.singleton_append,
          scanLiteral_plain hplain.2.1 hplain.1 (not_opens_cons (by simp) ho)
            (not_opens_escapeChars (by simp) hend r), ih]
        rfl

theorem toList_quote (s : String) : (quote s).toList = '"' :: escapeChars s.toList ++ ['"'] := by
  simp [quote]

/-- A quoted text tells itself from what stands behind it. -/
theorem quote_cancel {s t : String} {a b : List Char}
    (h : (quote s).toList ++ a = (quote t).toList ++ b) : s = t ∧ a = b := by
  simp only [toList_quote, List.cons_append, List.append_assoc, List.nil_append, List.cons.injEq,
    true_and] at h
  have hscan := congrArg scanLiteral h
  rw [scan_escapeChars, scan_escapeChars] at hscan
  injection hscan with htext hrest
  exact ⟨String.toList_inj.1 htext, hrest⟩

/-- No line break and no tab is left as it is. -/
theorem ne_break_of_mem_escapeChars {d : Char} : ∀ {cs : List Char}, d ∈ escapeChars cs →
    d ≠ '\n' ∧ d ≠ '\r' ∧ d ≠ '\t'
  | c :: r, h => by
    by_cases ho : Opens (c :: r)
    · rw [escapeChars_opens ho, List.mem_cons, List.mem_cons] at h
      rcases h with rfl | rfl | h
      · obtain ⟨c', r', hc, heq⟩ := ho
        obtain ⟨rfl, -⟩ := List.cons.inj heq
        rcases hc with rfl | rfl <;> decide
      · obtain ⟨c', r', hc, heq⟩ := ho
        obtain ⟨rfl, -⟩ := List.cons.inj heq
        rcases hc with rfl | rfl <;> decide
      · exact ne_break_of_mem_escapeChars h
    · rw [escapeChars_of_not_opens ho, List.mem_append] at h
      rcases h with h | h
      · by_cases hp : IsPaired c
        · rcases hp with rfl | rfl | rfl | rfl | rfl <;> simp [escapeChar] at h <;>
            rcases h with rfl | rfl <;> decide
        · rw [escapeChar_of_not_paired hp, List.mem_singleton] at h
          subst h
          simp only [IsPaired, not_or] at hp
          exact hp.2.2
      · exact ne_break_of_mem_escapeChars h

/-- **Quoted texts read back.** A quoted text closes exactly at its last character, reads as the text
without opening a template, and holds no line break and no tab. -/
theorem scan_quote (s : String) : ∃ body, (quote s).toList = '"' :: body ∧
    scanLiteral body = .closed s.toList [] ∧
    ∀ c ∈ (quote s).toList, c ≠ '\n' ∧ c ≠ '\r' ∧ c ≠ '\t' := by
  refine ⟨escapeChars s.toList ++ ['"'], by simp [quote], scan_escapeChars s.toList, fun c hc => ?_⟩
  have hc : c = '"' ∨ c ∈ escapeChars s.toList := by
    simp only [quote, String.toList_ofList, List.cons_append, List.mem_cons, List.mem_append,
      List.not_mem_nil, or_false] at hc
    rcases hc with hc | hc | hc
    · exact .inl hc
    · exact .inr hc
    · exact .inl hc
  rcases hc with rfl | hc
  · decide
  · exact ne_break_of_mem_escapeChars hc

/-! ## Bare keys -/

theorem continuesIdentifier_ne {c : Char} (h : continuesIdentifier c = true) : c ≠ '"' ∧ c ≠ ' ' := by
  constructor <;>
  · rintro rfl
    revert h
    decide

/-- A text without its line end, and what was dropped. -/
theorem eq_dropLineEnd (cs : List Char) : cs = dropLineEnd cs ∨ cs = dropLineEnd cs ++ ['\n'] := by
  unfold dropLineEnd
  split
  · rename_i h
    obtain ⟨ds, rfl⟩ := List.getLast?_eq_some_iff.1 h
    exact .inr (by rw [List.dropLast_concat])
  · exact .inl rfl

/-- A key that is written bare is not empty and holds no quote and no space. -/
theorem isBare_key {k : String} (h : isIdentifier (dropLineEnd k.toList) = true) :
    k.toList ≠ [] ∧ ∀ c ∈ k.toList, c ≠ '"' ∧ c ≠ ' ' := by
  cases hk : dropLineEnd k.toList with
  | nil => simp [hk, isIdentifier] at h
  | cons c r =>
    rw [hk, isIdentifier, Bool.and_eq_true, List.all_eq_true] at h
    obtain ⟨hc, hr⟩ := h
    have hall : ∀ d ∈ c :: r, d ≠ '"' ∧ d ≠ ' ' := by
      intro d hd
      rcases List.mem_cons.1 hd with rfl | hd
      · exact continuesIdentifier_ne (by simp [continuesIdentifier, hc])
      · exact continuesIdentifier_ne (hr d hd)
    rcases eq_dropLineEnd k.toList with hend | hend
    · rw [hend, hk]
      exact ⟨by simp, hall⟩
    · rw [hend, hk]
      refine ⟨by simp, fun d hd => ?_⟩
      rcases List.mem_append.1 hd with hd | hd
      · exact hall d hd
      · obtain rfl := List.mem_singleton.1 hd
        decide

/-- A bare key does not look like a quoted one. -/
theorem bare_ne_quote {k l : String} {a b : List Char}
    (h : isIdentifier (dropLineEnd k.toList) = true) : k.toList ++ a ≠ (quote l).toList ++ b := by
  intro heq
  obtain ⟨hne, hall⟩ := isBare_key h
  obtain ⟨c, r, hk⟩ := List.exists_cons_of_ne_nil hne
  rw [toList_quote, hk] at heq
  exact (hall c (hk ▸ List.mem_cons_self)).1 (List.cons.inj heq).1

/-! ## Seven replacements -/

/-- Replaces the occurrences of a pattern from left to right. -/
def replaceAll (pattern new : List Char) : List Char → List Char
  | [] => []
  | c :: r =>
    if pattern.isPrefixOf (c :: r) then new ++ replaceAll pattern new (r.drop (pattern.length - 1))
    else c :: replaceAll pattern new r
termination_by cs => cs.length
decreasing_by
  · simp only [List.length_drop, List.length_cons]; omega
  · simp

/-- The patterns with what is written for them, in the order in which they are replaced. -/
def replacements : List (String × String) :=
  [("\\", "\\\\"), ("\"", "\\\""), ("\n", "\\n"), ("\r", "\\r"), ("\t", "\\t"),
   ("$\x7b", "$$\x7b"), ("%\x7b", "%%\x7b")]

/-- All replacements, each made on what the one before it gave. -/
def escapeInTurn (cs : List Char) : List Char :=
  replacements.foldl (fun cs p => replaceAll p.1.toList p.2.toList cs) cs

theorem replaceAll_char (a : Char) (new : List Char) : ∀ cs : List Char,
    replaceAll [a] new cs = cs.flatMap fun c => if c = a then new else [c]
  | [] => by simp [replaceAll]
  | c :: r => by
    have ih := replaceAll_char a new r
    rw [replaceAll, List.flatMap_cons]
    by_cases hc : c = a
    · simp [hc, ih]
    · simp [hc, Ne.symm hc, ih]

/-- Doubling a mark in front of a brace looks at one character and the next. -/
theorem replaceAll_brace {m : Char} (hm : m ≠ '{') (c : Char) (r : List Char) :
    replaceAll [m, '{'] [m, m, '{'] (c :: r) =
      (if c = m ∧ r.head? = some '{' then [m, m] else [c]) ++ replaceAll [m, '{'] [m, m, '{'] r := by
  rw [replaceAll]
  by_cases hc : c = m ∧ r.head? = some '{'
  · obtain ⟨rfl, hr⟩ := hc
    cases r with
    | nil => simp at hr
    | cons b r =>
      obtain rfl : b = '{' := by simpa using hr
      have hskip : replaceAll [c, '{'] [c, c, '{'] ('{' :: r) =
          '{' :: replaceAll [c, '{'] [c, c, '{'] r := by
        rw [replaceAll, if_neg]
        simp [hm]
      simp [hskip]
  · have hno : ¬ [m, '{'].isPrefixOf (c :: r) = true := by
      cases r with
      | nil => simp
      | cons b r =>
        intro hp
        simp only [List.isPrefixOf, Bool.and_eq_true, beq_iff_eq] at hp
        exact hc ⟨hp.1.symm, by simp [← hp.2.1]⟩
    rw [if_neg hno, if_neg hc]
    rfl

/-- The replacements of single characters come to `escapeChar` on each of them. -/
theorem replace_chars (cs : List Char) :
    replaceAll ['\t'] ['\\', 't'] (replaceAll ['\r'] ['\\', 'r'] (replaceAll ['\n'] ['\\', 'n']
      (replaceAll ['"'] ['\\', '"'] (replaceAll ['\\'] ['\\', '\\'] cs)))) = cs.flatMap escapeChar := by
  simp only [replaceAll_char, List.flatMap_assoc]
  congr 1
  funext c
  by_cases hp : IsPaired c
  · rcases hp with rfl | rfl | rfl | rfl | rfl <;> decide
  · rw [escapeChar_of_not_paired hp]
    simp only [IsPaired, not_or] at hp
    simp [hp]

/-- The two replacements of marks before a brace, the one for dollar signs first. -/
def doubleMarks (cs : List Char) : List Char :=
  replaceAll ['%', '{'] ['%', '%', '{'] (replaceAll ['$', '{'] ['$', '$', '{'] cs)

theorem doubleMarks_cons (c : Char) (r : List Char) :
    doubleMarks (c :: r) = (if opensTemplate c r then [c, c] else [c]) ++ doubleMarks r := by
  have hhead : (replaceAll ['$', '{'] ['$', '$', '{'] r).head? = some '{' ↔ r.head? = some '{' := by
    cases r with
    | nil => simp [replaceAll]
    | cons b r =>
      rw [replaceAll_brace (by decide)]
      by_cases hb : b = '$' ∧ r.head? = some '{'
      · simp [hb.1, hb.2]
      · simp [hb]
  unfold doubleMarks
  rw [replaceAll_brace (by decide) c r]
  by_cases hr : r.head? = some '{'
  · by_cases h1 : c = '$'
    · subst h1
      simp [hr, opensTemplate, replaceAll_brace (show '%' ≠ '{' by decide)]
    · by_cases h2 : c = '%'
      · subst h2
        simp [hr, hhead, opensTemplate, replaceAll_brace (show '%' ≠ '{' by decide)]
      · simp [h1, h2, opensTemplate, replaceAll_brace (show '%' ≠ '{' by decide)]
  · simp [hr, hhead, opensTemplate, replaceAll_brace (show '%' ≠ '{' by decide)]

theorem head_flatMap_escapeChar (cs : List Char) :
    (cs.flatMap escapeChar).head? = some '{' ↔ cs.head? = some '{' := by
  cases cs with
  | nil => simp
  | cons c r =>
    by_cases hp : IsPaired c
    · rcases hp with rfl | rfl | rfl | rfl | rfl <;> simp [escapeChar]
    · simp [escapeChar_of_not_paired hp]

theorem doubleMarks_flatMap : ∀ cs : List Char, doubleMarks (cs.flatMap escapeChar) = escapeChars cs
  | [] => by simp [escapeChars, doubleMarks, replaceAll]
  | c :: r => by
    have ih := doubleMarks_flatMap r
    rw [escapeChars, List.flatMap_cons]
    by_cases hp : IsPaired c
    · rcases hp with rfl | rfl | rfl | rfl | rfl <;>
        simp [escapeChar, doubleMarks_cons, opensTemplate, ih]
    · have hopens : opensTemplate c (r.flatMap escapeChar) = opensTemplate c r := by
        rw [Bool.eq_iff_iff]
        simp [opensTemplate, head_flatMap_escapeChar]
      rw [escapeChar_of_not_paired hp, List.singleton_append, doubleMarks_cons, hopens, ih]

/-- **One pass does what the replacements do in turn.** -/
theorem escapeChars_eq_inTurn (cs : List Char) : escapeChars cs = escapeInTurn cs := by
  rw [← doubleMarks_flatMap, ← replace_chars]
  rfl

end CloudScaffold.Hcl
