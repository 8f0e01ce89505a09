import CloudScaffold.Proofs.Hcl.Quoted
import CloudScaffold.Proofs.Hcl.Writable
/-!
# Interpolations read back

An interpolation is a quoted template that holds literal texts and live templates of pointers.
`scanTemplate` reads one by the rules of the language, as `scanLiteral` does, and goes on behind a live
template.

Every part of an interpolation is written for itself, whatever stands behind it. So a text may end in a
mark that belongs together with the start of what follows (`Seam`): a dollar sign in front of a pointer
makes the pointer a literal text, and a dollar or percent sign in front of a text with a brace at its
start makes this text a live template. Seams are all that can go wrong, expressions with a closing brace
of their own apart. Main statement: `renderValue_interp_reads`.
-/
namespace CloudScaffold.Hcl

/-! ## Reading -/

/-- What a template holds at one place. -/
inductive Segment where
  | char (c : Char)
  /-- A live template: the mark in front of its braces, and the expression between them. -/
  | live (mark : Char) (expression : List Char)
  deriving DecidableEq

/-- What the characters behind an opening quote come to. -/
inductive Template where
  /-- What the template holds, and what follows its closing quote. -/
  | closed (segments : List Segment) (rest : List Char)
  /-- No closing quote, or no closing brace. -/
  | endless
  deriving DecidableEq

/-- A segment in front of those of a template. -/
def Template.cons (s : Segment) : Template → Template
  | closed segments rest => closed (s :: segments) rest
  | endless => endless

mutual
/-- Reads a quoted template from behind its opening quote. -/
def scanTemplate : List Char → Template
  | [] => .endless
  | '"' :: r => .closed [] r
  | '\\' :: '\\' :: r => (scanTemplate r).cons (.char '\\')
  | '\\' :: '"' :: r => (scanTemplate r).cons (.char '"')
  | '\\' :: 'n' :: r => (scanTemplate r).cons (.char '\n')
  | '\\' :: 'r' :: r => (scanTemplate r).cons (.char '\r')
  | '\\' :: 't' :: r => (scanTemplate r).cons (.char '\t')
  | '$' :: '$' :: '{' :: r => ((scanTemplate r).cons (.char '{')).cons (.char '$')
  | '%' :: '%' :: '{' :: r => ((scanTemplate r).cons (.char '{')).cons (.char '%')
  | '$' :: '{' :: r => scanLive '$' [] r
  | '%' :: '{' :: r => scanLive '%' [] r
  | c :: r => (scanTemplate r).cons (.char c)

/-- Reads on within a live template, of whose expression some characters were read. -/
def scanLive (mark : Char) (read : List Char) : List Char → Template
  | [] => .endless
  | '}' :: r => (scanTemplate r).cons (.live mark read)
  | c :: r => scanLive mark (read ++ [c]) r
end

/-- The marks that open a template in front of a brace. -/
def IsMark (m : Char) : Prop := m = '$' ∨ m = '%'

section
variable {c m k : Char} {r e read : List Char} {ss : List Segment} {rest : List Char}

theorem cons_eq_closed {s s' : Segment} {t : Template} :
    t.cons s = .closed (s' :: ss) rest ↔ s = s' ∧ t = .closed ss rest := by
  cases t <;> simp [Template.cons, and_assoc]

/-- A character that is no quote and no backslash, and no mark of a template, live or doubled, stands
for itself. -/
theorem scanTemplate_plain (hq : c ≠ '"') (hb : c ≠ '\\') (ho : ¬ Opens (c :: r))
    (hd : ∀ r', r = c :: '{' :: r' → ¬ IsMark c) :
    scanTemplate (c :: r) = (scanTemplate r).cons (.char c) := by
  rw [scanTemplate.eq_def]
  split <;> simp_all [Opens, IsMark]

theorem scanTemplate_brace (r : List Char) :
    scanTemplate ('{' :: r) = (scanTemplate r).cons (.char '{') := by
  rw [scanTemplate] <;> simp

theorem scanTemplate_doubled (hm : IsMark m) (r : List Char) :
    scanTemplate (m :: m :: '{' :: r) = ((scanTemplate r).cons (.char '{')).cons (.char m) := by
  rcases hm with rfl | rfl <;> rw [scanTemplate]

theorem scanTemplate_live (hm : IsMark m) (r : List Char) :
    scanTemplate (m :: '{' :: r) = scanLive m [] r := by
  rcases hm with rfl | rfl <;> rw [scanTemplate]

theorem scanLive_cons (hc : c ≠ '}') : scanLive m read (c :: r) = scanLive m (read ++ [c]) r := by
  rw [scanLive]
  exact hc

/-- A live template ends at the first closing brace. -/
theorem scanLive_append (he : '}' ∉ e) :
    scanLive m read (e ++ '}' :: r) = (scanTemplate r).cons (.live m (read ++ e)) := by
  induction e generalizing read with
  | nil => rw [List.nil_append, scanLive, List.append_nil]
  | cons c e ih =>
    obtain ⟨hc, he⟩ := not_or.1 (List.mem_cons.not.1 he)
    rw [List.cons_append, scanLive_cons (Ne.symm hc), ih he, List.append_assoc, List.singleton_append]

/-- What is read within a live template is one, and no closing brace stands in its expression. -/
theorem scanLive_eq_closed {s : Segment} (hread : '}' ∉ read)
    (h : scanLive m read r = .closed (s :: ss) rest) : ∃ e, s = .live m e ∧ '}' ∉ e := by
  induction r generalizing read with
  | nil => rw [scanLive] at h; cases h
  | cons c r ih =>
    by_cases hc : c = '}'
    · subst hc
      rw [scanLive, cons_eq_closed] at h
      exact ⟨read, h.1.symm, hread⟩
    · rw [scanLive_cons hc] at h
      refine ih ?_ h
      simpa using ⟨hread, Ne.symm hc⟩

/-- A mark in front of a brace is not read as a character. -/
theorem scanTemplate_mark_ne (hm : IsMark m) :
    scanTemplate (m :: '{' :: r) ≠ .closed (.char c :: ss) rest := by
  intro h
  rw [scanTemplate_live hm] at h
  obtain ⟨e, he, -⟩ := scanLive_eq_closed List.not_mem_nil h
  cases he

end

/-! ## Parts beside each other -/

/-- Whether the last of some segments is a mark that is lost, or opens a template, in front of what
follows. -/
def Seam (before after : List Segment) : Prop :=
  ∃ m, before.getLast? = some (.char m) ∧
    (IsMark m ∧ after.head? = some (.char '{') ∨ m = '$' ∧ ∃ e, after.head? = some (.live '$' e))

section
variable {x : Segment} {xs ys : List Segment} {c : Char}

theorem not_seam_nil : ¬ Seam [] ys := by
  rintro ⟨m, hm, -⟩
  cases hm

theorem seam_singleton : Seam [.char c] ys ↔ IsMark c ∧ ys.head? = some (.char '{') ∨
    c = '$' ∧ ∃ e, ys.head? = some (.live '$' e) := by
  simp [Seam]

/-- Only the last segment counts. -/
theorem seam_cons (hne : xs ≠ []) : Seam (x :: xs) ys ↔ Seam xs ys := by
  obtain ⟨x', xs, rfl⟩ := List.exists_cons_of_ne_nil hne
  simp only [Seam, List.getLast?_cons_cons]

theorem seam_cons_char (hc : ¬ IsMark c) : Seam (.char c :: xs) ys ↔ Seam xs ys := by
  cases xs with
  | nil =>
    rw [seam_singleton]
    refine iff_of_false ?_ not_seam_nil
    rintro (⟨hm, -⟩ | ⟨hm, -⟩)
    · exact hc hm
    · exact hc (.inl hm)
  | cons x xs => exact seam_cons (List.cons_ne_nil _ _)

end

/-- Segments and the text that is written for them, part by part, with the closing quote. -/
inductive Stands : List Segment → List Char → Prop
  | close : Stands [] ['"']
  | text (cs : List Char) {ss : List Segment} {t : List Char} (h : Stands ss t) :
    Stands (cs.map .char ++ ss) (escapeChars cs ++ t)
  | live (e : List Char) {ss : List Segment} {t : List Char} (h : Stands ss t) :
    Stands (.live '$' e :: ss) ('$' :: '{' :: (e ++ '}' :: t))

theorem not_isPaired_of_isMark {m : Char} (h : IsMark m) : ¬ IsPaired m := by
  rcases h with rfl | rfl <;> simp [IsPaired]

/-- An escaped text starts with the first character of the text or with a backslash. -/
theorem head_escapeChars_cons (c : Char) (r t : List Char) :
    (escapeChars (c :: r) ++ t).head? = some c ∨
      IsPaired c ∧ (escapeChars (c :: r) ++ t).head? = some '\\' := by
  by_cases ho : Opens (c :: r)
  · rw [escapeChars_opens ho]
    exact .inl rfl
  · rw [escapeChars_of_not_opens ho]
    by_cases hp : IsPaired c
    · right
      refine ⟨hp, ?_⟩
      rcases hp with rfl | rfl | rfl | rfl | rfl <;> rfl
    · rw [escapeChar_of_not_paired hp]
      exact .inl rfl

namespace Stands

variable {ss : List Segment} {t r : List Char} {m : Char}

theorem head_brace_iff (h : Stands ss t) : t.head? = some '{' ↔ ss.head? = some (.char '{') := by
  induction h with
  | close => simp
  | live e _ _ => simp
  | text cs h ih =>
    cases cs with
    | nil => exact ih
    | cons c r =>
      rcases head_escapeChars_cons c r _ with hc | ⟨hp, hc⟩
      · rw [hc]
        simp
      · rw [hc]
        have hne : c ≠ '{' := by
          rintro rfl
          simp [IsPaired] at hp
        simp [hne]

/-- A text that starts with an opening is that of a pointer, or of a character that is the mark. -/
theorem of_opens (h : Stands ss t) (hm : IsMark m) (ht : t = m :: '{' :: r) :
    (m = '$' ∧ ∃ e, ss.head? = some (.live '$' e)) ∨ ss.head? = some (.char m) := by
  induction h with
  | close => cases ht
  | live e _ _ =>
    obtain ⟨rfl, -⟩ := List.cons.inj ht
    exact .inl ⟨rfl, e, rfl⟩
  | text cs h ih =>
    cases cs with
    | nil => exact ih ht
    | cons c q =>
      right
      rcases head_escapeChars_cons c q _ with hc | ⟨-, hc⟩
      · rw [ht, List.head?_cons, Option.some.injEq] at hc
        rw [hc]
        rfl
      · rw [ht, List.head?_cons, Option.some.injEq] at hc
        exact absurd (hc ▸ .inl rfl) (not_isPaired_of_isMark hm)

theorem opens_of_live (h : Stands ss t) {e : List Char} (hs : ss.head? = some (.live '$' e)) :
    ∃ r, t = '$' :: '{' :: r := by
  induction h with
  | close => cases hs
  | live e _ _ => exact ⟨_, rfl⟩
  | text cs h ih =>
    cases cs with
    | nil => exact ih hs
    | cons c q => cases hs

section
variable {cs : List Char}

/-- Segments behind a text that start with none of its characters start behind it. -/
theorem eq_nil_of_head {s : Segment} (hs : (cs.map Segment.char ++ ss).head? = some s)
    (hne : ∀ c ∈ cs.head?, s ≠ .char c) : cs = [] := by
  cases cs with
  | nil => rfl
  | cons c cs => exact absurd (Option.some.inj hs).symm (hne c rfl)

/-- A mark in front of a brace opens a live template. The brace stands behind the text of the mark. -/
theorem seam_of_brace (h : Stands ss t) (hm : IsMark m) (ho : ¬ Opens (m :: cs))
    (hbrace : (escapeChars cs ++ t).head? = some '{') :
    Seam (.char m :: cs.map .char) ss ∧
      scanTemplate (m :: (escapeChars cs ++ t)) ≠ .closed (.char m :: (cs.map .char ++ ss)) [] := by
  have hhead := (h.text cs).head_brace_iff.1 hbrace
  obtain rfl : cs = [] := by
    refine eq_nil_of_head hhead fun c hmem hc => ho ?_
    obtain rfl := Segment.char.inj hc
    obtain ⟨r, rfl⟩ := List.head?_eq_some_iff.1 hmem
    exact ⟨m, r, hm, rfl⟩
  obtain ⟨r, hr⟩ := List.head?_eq_some_iff.1 hbrace
  rw [hr]
  exact ⟨seam_singleton.2 (.inl ⟨hm, hhead⟩), scanTemplate_mark_ne hm⟩

/-- A mark in front of an opening makes it a literal text. If there is no seam behind the text of the
mark, the opening is not what was meant either. -/
theorem ne_of_doubled (h : Stands ss t) (hm : IsMark m)
    (hr : escapeChars cs ++ t = m :: '{' :: r) :
    scanTemplate (m :: (escapeChars cs ++ t)) ≠ .closed (.char m :: (cs.map .char ++ ss)) [] ∧
      (Seam (.char m :: cs.map .char) ss ∨
        scanTemplate (escapeChars cs ++ t) ≠ .closed (cs.map .char ++ ss) []) := by
  constructor
  · intro hread
    rw [hr, scanTemplate_doubled hm, cons_eq_closed] at hread
    -- what was meant would start with a brace, and so would the text
    have hhead : (cs.map Segment.char ++ ss).head? = some (.char '{') := by
      cases hs : cs.map Segment.char ++ ss with
      | nil =>
        rw [hs] at hread
        cases hscan : scanTemplate r <;> rw [hscan] at hread <;> cases hread.2
      | cons s rest =>
        rw [hs, cons_eq_closed] at hread
        rw [← hread.2.1]
        rfl
    have hbrace := (h.text cs).head_brace_iff.2 hhead
    rw [hr, List.head?_cons, Option.some.injEq] at hbrace
    rcases hm with rfl | rfl <;> cases hbrace
  · rcases (h.text cs).of_opens hm hr with ⟨rfl, e, he⟩ | hc
    · left
      obtain rfl : cs = [] := eq_nil_of_head he fun c _ => nofun
      exact seam_singleton.2 (.inr ⟨rfl, e, he⟩)
    · right
      obtain ⟨rest, hs⟩ := List.head?_eq_some_iff.1 hc
      rw [hr, hs]
      exact scanTemplate_mark_ne hm

/-- Any other mark stands for itself, and makes no seam if there is none without it. -/
theorem plain_of_mark (h : Stands ss t) (hm : IsMark m)
    (hbrace : (escapeChars cs ++ t).head? ≠ some '{')
    (hdouble : ¬ ∃ r, escapeChars cs ++ t = m :: '{' :: r) :
    scanTemplate (m :: (escapeChars cs ++ t)) = (scanTemplate (escapeChars cs ++ t)).cons (.char m) ∧
      (Seam (.char m :: cs.map .char) ss ↔ Seam (cs.map .char) ss) := by
  constructor
  · refine scanTemplate_plain ?_ ?_ ?_ fun r hr => absurd ⟨r, hr⟩ hdouble
    · rintro rfl
      exact not_isPaired_of_isMark hm (.inr (.inl rfl))
    · rintro rfl
      exact not_isPaired_of_isMark hm (.inl rfl)
    · rintro ⟨c, r, -, heq⟩
      obtain ⟨-, heq⟩ := List.cons.inj heq
      exact hbrace (by rw [heq]; rfl)
  · by_cases hcs : cs = []
    · subst hcs
      refine iff_of_false ?_ not_seam_nil
      rw [List.map_nil, seam_singleton]
      rintro (⟨-, hhead⟩ | ⟨rfl, e, he⟩)
      · exact hbrace (h.head_brace_iff.2 hhead)
      · exact hdouble (h.opens_of_live he)
    · exact seam_cons (List.map_eq_nil_iff.not.2 hcs)

/-- A mark that opens nothing within its text. -/
theorem cons_mark_iff (h : Stands ss t) (hm : IsMark m) (ho : ¬ Opens (m :: cs))
    (ih : scanTemplate (escapeChars cs ++ t) = .closed (cs.map .char ++ ss) [] ↔
      ¬ Seam (cs.map .char) ss ∧ scanTemplate t = .closed ss []) :
    scanTemplate (m :: (escapeChars cs ++ t)) = .closed (.char m :: (cs.map .char ++ ss)) [] ↔
      ¬ Seam (.char m :: cs.map .char) ss ∧ scanTemplate t = .closed ss [] := by
  by_cases hbrace : (escapeChars cs ++ t).head? = some '{'
  · obtain ⟨hseam, hne⟩ := h.seam_of_brace hm ho hbrace
    exact iff_of_false hne fun hright => hright.1 hseam
  by_cases hdouble : ∃ r, escapeChars cs ++ t = m :: '{' :: r
  · obtain ⟨r, hr⟩ := hdouble
    obtain ⟨hne, hwrong⟩ := h.ne_of_doubled hm hr
    refine iff_of_false hne ?_
    rintro ⟨hseam, hscan⟩
    have hrest : ¬ Seam (cs.map .char) ss := by
      by_cases hcs : cs.map Segment.char = []
      · rw [hcs]
        exact not_seam_nil
      · rwa [seam_cons hcs] at hseam
    exact hwrong.elim hseam fun hne => hne (ih.2 ⟨hrest, hscan⟩)
  · obtain ⟨hplain, hseam⟩ := h.plain_of_mark hm hbrace hdouble
    rw [hplain, cons_eq_closed, and_iff_right rfl, ih, hseam]

end

/-- **A text reads as its characters just if there is no seam behind it.** -/
theorem text_iff (h : Stands ss t) : ∀ cs : List Char,
    scanTemplate (escapeChars cs ++ t) = .closed (cs.map .char ++ ss) [] ↔
      ¬ Seam (cs.map .char) ss ∧ scanTemplate t = .closed ss []
  | [] => by simp [escapeChars, not_seam_nil]
  | c :: cs => by
    have ih := h.text_iff cs
    rw [List.map_cons, List.cons_append]
    by_cases ho : Opens (c :: cs)
    · rw [escapeChars_opens ho]
      obtain ⟨m, r, hm, heq⟩ := ho
      obtain ⟨rfl, rfl⟩ := List.cons.inj heq
      have hbrace : escapeChars ('{' :: r) = '{' :: escapeChars r := by
        simp [escapeChars, opensTemplate, escapeChar]
      rw [hbrace, List.cons_append, scanTemplate_brace, List.map_cons, List.cons_append,
        cons_eq_closed, and_iff_right rfl] at ih
      rw [hbrace, List.cons_append, List.cons_append, List.cons_append, scanTemplate_doubled hm,
        cons_eq_closed, and_iff_right rfl, List.map_cons, List.cons_append, cons_eq_closed,
        and_iff_right rfl, ih, seam_cons (List.cons_ne_nil _ _)]
    · rw [escapeChars_of_not_opens ho, List.append_assoc]
      by_cases hp : IsPaired c
      · have hc : ¬ IsMark c := fun hm => not_isPaired_of_isMark hm hp
        have hscan : scanTemplate (escapeChar c ++ (escapeChars cs ++ t)) =
            (scanTemplate (escapeChars cs ++ t)).cons (.char c) := by
          rcases hp with rfl | rfl | rfl | rfl | rfl <;> simp [escapeChar, scanTemplate]
        rw [hscan, cons_eq_closed, and_iff_right rfl, ih, seam_cons_char hc]
      · rw [escapeChar_of_not_paired hp, List.singleton_append]
        by_cases hm : IsMark c
        · exact h.cons_mark_iff hm ho ih
        · have hplain := hp
          simp only [IsPaired, not_or] at hplain
          have hopens : ¬ Opens (c :: (escapeChars cs ++ t)) := by
            rintro ⟨d, r, hd, heq⟩
            obtain ⟨rfl, -⟩ := List.cons.inj heq
            exact hm hd
          rw [scanTemplate_plain hplain.2.1 hplain.1 hopens fun _ _ => hm, cons_eq_closed, and_iff_right rfl, ih,
            seam_cons_char hm]

/-- A pointer reads as it is just if no closing brace stands in its expression. -/
theorem live_iff (e t : List Char) (ss : List Segment) :
    scanTemplate ('$' :: '{' :: (e ++ '}' :: t)) = .closed (.live '$' e :: ss) [] ↔
      '}' ∉ e ∧ scanTemplate t = .closed ss [] := by
  rw [scanTemplate_live (.inl rfl)]
  constructor
  · intro h
    obtain ⟨e', heq, he⟩ := scanLive_eq_closed List.not_mem_nil h
    cases heq
    rw [scanLive_append he, List.nil_append, cons_eq_closed] at h
    exact ⟨he, h.2⟩
  · rintro ⟨he, hscan⟩
    rw [scanLive_append he, List.nil_append, cons_eq_closed]
    exact ⟨rfl, hscan⟩

end Stands

/-! ## Interpolations -/

/-- What a part of an interpolation means. -/
def segmentsOf : Value → List Segment
  | .str s | .raw s => s.toList.map .char
  | .ref r => [.live '$' (Pointer.ref r).expression.toList]
  | .var n => [.live '$' (Pointer.var n).expression.toList]
  | _ => []

/-- A part of an interpolation as it stands between the quotes. -/
def partChars : Value → List Char
  | .str s | .raw s => escapeChars s.toList
  | .ref r => '$' :: '{' :: ((Pointer.ref r).expression.toList ++ ['}'])
  | .var n => '$' :: '{' :: ((Pointer.var n).expression.toList ++ ['}'])
  | _ => []

/-- Whether no part of an interpolation makes a seam with what stands behind it. -/
def IsSeamless (ps : List Value) : Prop :=
  ∀ before p after, ps = before ++ p :: after → ¬ Seam (segmentsOf p) (after.flatMap segmentsOf)

section
variable {p : Value} {ps : List Value}

theorem isSeamless_nil : IsSeamless [] := by
  intro before p after h
  simp at h

theorem isSeamless_cons :
    IsSeamless (p :: ps) ↔ ¬ Seam (segmentsOf p) (ps.flatMap segmentsOf) ∧ IsSeamless ps := by
  constructor
  · intro h
    exact ⟨h [] p ps rfl, fun before q after hps => h (p :: before) q after (by rw [hps]; rfl)⟩
  · rintro ⟨hp, hps⟩ before q after heq
    cases before with
    | nil =>
      obtain ⟨rfl, rfl⟩ := List.cons.inj heq
      exact hp
    | cons b before => exact hps before q after (List.cons.inj heq).2

/-- A part is a text that is escaped, or a live template of its pointer. -/
theorem part_cases (hp : isPart p = true) :
    (∃ cs, segmentsOf p = cs.map .char ∧ partChars p = escapeChars cs ∧ p.refs = []) ∨
      ∃ q : Pointer, segmentsOf p = [.live '$' q.expression.toList] ∧
        partChars p = '$' :: '{' :: (q.expression.toList ++ ['}']) ∧ p.refs = [q] := by
  cases p with
  | str s | raw s => exact .inl ⟨s.toList, rfl, rfl, rfl⟩
  | ref r => exact .inr ⟨.ref r, rfl, rfl, rfl⟩
  | var n => exact .inr ⟨.var n, rfl, rfl, rfl⟩
  | _ => cases hp

theorem renderPart_of_isPart (hp : isPart p = true) : renderPart p = .ok (.ofList (partChars p)) := by
  cases p with
  | str s | raw s => rfl
  | ref r | var n =>
    refine congrArg Except.ok (String.toList_inj.1 ?_)
    simp [partChars, Pointer.expression]
  | _ => cases hp

theorem mapM_renderPart (hps : ∀ p ∈ ps, isPart p = true) :
    ps.mapM renderPart = .ok (ps.map fun p => .ofList (partChars p)) := by
  induction ps with
  | nil => rfl
  | cons p ps ih =>
    obtain ⟨hp, hps⟩ := List.forall_mem_cons.1 hps
    rw [List.mapM_cons, renderPart_of_isPart hp, ih hps]
    rfl

/-- The parts of an interpolation are read one by one. -/
theorem scanTemplate_parts (hps : ∀ p ∈ ps, isPart p = true) :
    Stands (ps.flatMap segmentsOf) (ps.flatMap partChars ++ ['"']) ∧
      (scanTemplate (ps.flatMap partChars ++ ['"']) = .closed (ps.flatMap segmentsOf) [] ↔
        IsSeamless ps ∧ ∀ q ∈ Value.refsList ps, '}' ∉ q.expression.toList) := by
  induction ps with
  | nil => exact ⟨.close, by simp [scanTemplate, isSeamless_nil, Value.refsList]⟩
  | cons p ps ih =>
    obtain ⟨hp, hps⟩ := List.forall_mem_cons.1 hps
    obtain ⟨hstands, ih⟩ := ih hps
    rw [List.flatMap_cons, List.flatMap_cons, List.append_assoc, isSeamless_cons, Value.refsList]
    rcases part_cases hp with ⟨cs, hsegments, htext, hrefs⟩ | ⟨q, hsegments, htext, hrefs⟩
    · rw [hsegments, htext, hrefs, List.nil_append, hstands.text_iff, ih, and_assoc]
      exact ⟨hstands.text cs, Iff.rfl⟩
    · have hseam : ¬ Seam (segmentsOf p) (ps.flatMap segmentsOf) := by
        rw [hsegments]
        rintro ⟨m, hm, -⟩
        cases hm
      rw [and_iff_right hseam, hsegments, htext, hrefs, List.singleton_append, List.cons_append,
        List.cons_append, List.append_assoc, List.singleton_append, List.singleton_append,
        Stands.live_iff, ih, List.forall_mem_cons]
      exact ⟨hstands.live _, and_left_comm⟩

/-- **Interpolations read back as long as they have no seams.** An interpolation of texts and pointers
is read as the characters of its texts and the live templates of its pointers, in their places, if no
part makes a seam with what stands behind it and no expression has a closing brace of its own, and in no
other case. -/
theorem renderValue_interp_reads (depth : Nat) (hps : ∀ p ∈ ps, isPart p = true) :
    ∃ body, renderValue depth (.interp ps) = .ok (.ofList ('"' :: body)) ∧
      (scanTemplate body = .closed (ps.flatMap segmentsOf) [] ↔
        IsSeamless ps ∧ ∀ q ∈ Value.refsList ps, '}' ∉ q.expression.toList) := by
  refine ⟨ps.flatMap partChars ++ ['"'], ?_, (scanTemplate_parts hps).2⟩
  rw [renderValue, mapM_renderPart hps]
  refine congrArg Except.ok (String.toList_inj.1 ?_)
  cases ps with
  | nil => rfl
  | cons p ps => simp [intercalate_cons, List.flatMap_map]

end

/-- An interpolation with marks that meet no brace: a percent sign in front of a pointer, and two dollar
signs in front of a text that starts with an opening. -/
theorem renderValue_interp_reads_discount :
    let ps : List Value := [.str "100%", .var "rate", .str "\"$$", .str "", .str "$\x7bx\x7d\n"]
    (∀ p ∈ ps, isPart p = true) ∧
      ∃ body, renderValue 0 (.interp ps) = .ok (.ofList ('"' :: body)) ∧
        scanTemplate body = .closed ("100%".toList.map .char ++ .live '$' "var.rate".toList ::
          "\"$$$\x7bx\x7d\n".toList.map .char) [] := by
  intro ps
  have hps : ∀ p ∈ ps, isPart p = true := by decide
  obtain ⟨body, hbody, hreads⟩ := renderValue_interp_reads 0 hps
  refine ⟨hps, body, hbody, hreads.2 ⟨?_, by decide⟩⟩
  simp [ps, isSeamless_cons, isSeamless_nil, Seam, segmentsOf]

/-- Seams of an interpolation. The pointer behind a dollar sign is read as a literal text, and the text
in braces behind one is read as a live template. -/
theorem renderValue_interp_seams :
    (∃ body, renderValue 0 (.interp [.str "a$", .var "x"]) = .ok (.ofList ('"' :: body)) ∧
      scanTemplate body = .closed ("a$\x7bvar.x\x7d".toList.map .char) []) ∧
    ∃ body, renderValue 0 (.interp [.str "$", .str "\x7bx\x7d"]) = .ok (.ofList ('"' :: body)) ∧
      scanTemplate body = .closed [.live '$' ['x']] [] :=
  ⟨⟨"a$$\x7bvar.x\x7d\"".toList, rfl, by decide⟩, "$\x7bx\x7d\"".toList, rfl, by decide⟩

end CloudScaffold.Hcl
