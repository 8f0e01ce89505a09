import CloudScaffold.Proofs.Assistant.Pieces
/-!
# Texts cut at their matches

`pieces` goes through a text with a function that finds a pattern. What it comes to can be said without
that function, by a relation that says what a match of the pattern is, with what follows it in view. A
text is cut (`IsCut`) at matches that stand where lines start, and there is no other match in it at the
start of any line: matches are not empty, and none starts inside another (`Finds`).

Every text can be cut (`exists_cut`), and however it is cut, the parts are those of `pieces`
(`IsCut.sections_eq`).
-/
namespace CloudScaffold.Assistant

/-- What a pattern matches: what is found, the text of the match, and what follows it. -/
abbrev Matching (α : Type) := α → List Char → List Char → Prop

/-- A finder of matches, which are not empty and do not start inside each other. -/
structure Finds {α : Type} (find : Finder α) (M : Matching α) : Prop where
  iff : ∀ {cs a rest}, find cs = some (a, rest) ↔ ∃ mark, cs = mark ++ rest ∧ M a mark rest
  nonempty : ∀ {a mark rest}, M a mark rest → mark ≠ []
  /-- Where a line starts in a match or at the end of it, nothing is found. -/
  apart : ∀ {a x y rest}, M a (x ++ y) rest → startsLine false x = true → find (y ++ rest) = none

/-- A match in a text, and the text behind it, up to the next match. -/
structure Part (α : Type) where
  found : α
  mark : List Char
  body : List Char

/-- The text of parts. -/
def partsText {α : Type} (ps : List (Part α)) : List Char := ps.flatMap fun p => p.mark ++ p.body

/-- The text of parts, without the matches. -/
def partsBody {α : Type} (ps : List (Part α)) : List Char := ps.flatMap (·.body)

/-- A text that is cut at all its matches. -/
structure IsCut {α : Type} (M : Matching α) (lineStart : Bool) (cs lead : List Char)
    (ps : List (Part α)) : Prop where
  whole : cs = lead ++ partsText ps
  /-- Each part starts with a match, where a line starts. -/
  marked : ∀ before p after, ps = before ++ p :: after →
    startsLine lineStart (lead ++ partsText before) = true ∧
      M p.found p.mark (p.body ++ partsText after)
  /-- There are no other matches where lines start. -/
  all : ∀ x a mark rest, cs = x ++ (mark ++ rest) → startsLine lineStart x = true → M a mark rest →
    ∃ before p after, ps = before ++ p :: after ∧ x = lead ++ partsText before ∧
      p.found = a ∧ p.mark = mark

section
variable {α : Type} {find : Finder α} {M : Matching α} {lineStart : Bool} {cs lead : List Char}
  {ps : List (Part α)} {p : Part α}

theorem partsText_cons (p : Part α) (ps : List (Part α)) :
    partsText (p :: ps) = p.mark ++ (p.body ++ partsText ps) := by
  rw [partsText, List.flatMap_cons, List.append_assoc]
  rfl

theorem partsText_append (ps qs : List (Part α)) :
    partsText (ps ++ qs) = partsText ps ++ partsText qs :=
  List.flatMap_append

theorem startsLine_append (lineStart : Bool) (xs ys : List Char) :
    startsLine lineStart (xs ++ ys) = startsLine (startsLine lineStart xs) ys := by
  induction xs generalizing lineStart with
  | nil => rfl
  | cons x xs ih => rw [List.cons_append, startsLine_cons, startsLine_cons, ih]

/-- Whether a line starts behind a text that is not empty can be seen from this text. -/
theorem startsLine_of_ne_nil {xs : List Char} (h : xs ≠ []) (b b' : Bool) :
    startsLine b xs = startsLine b' xs := by
  obtain ⟨x, xs, rfl⟩ := List.exists_cons_of_ne_nil h
  rw [startsLine_cons, startsLine_cons]

theorem ne_nil_of_startsLine {xs : List Char} (h : startsLine false xs = true) : xs ≠ [] := by
  rintro rfl
  cases h

/-! ## Cutting -/

/-- A text without a match is not cut. -/
theorem IsCut.nil (hfinds : Finds find M) : IsCut M lineStart [] [] [] where
  whole := rfl
  marked before p after h := by simp at h
  all x a mark rest h _ hmark := by
    simp only [List.nil_eq, List.append_eq_nil_iff] at h
    exact absurd h.2.1 (hfinds.nonempty hmark)

/-- A character at which there is no match goes to the text before the first match. -/
theorem IsCut.plain (hfinds : Finds find M) {c : Char}
    (hnone : lineStart = true → find (c :: cs) = none) (h : IsCut M (c == '\n') cs lead ps) :
    IsCut M lineStart (c :: cs) (c :: lead) ps where
  whole := by rw [h.whole, List.cons_append]
  marked before p after hps := by
    obtain ⟨hline, hmark⟩ := h.marked before p after hps
    exact ⟨by rwa [List.cons_append, startsLine_cons], hmark⟩
  all x a mark rest hcs hline hmark := by
    cases x with
    | nil =>
      have hfound : find (c :: cs) = some (a, rest) := hfinds.iff.2 ⟨mark, hcs, hmark⟩
      rw [hnone hline] at hfound
      cases hfound
    | cons d x =>
      rw [List.cons_append, List.cons.injEq] at hcs
      obtain ⟨rfl, hcs⟩ := hcs
      rw [startsLine_cons] at hline
      obtain ⟨before, p, after, hps, rfl, hp⟩ := h.all x a mark rest hcs hline hmark
      exact ⟨before, p, after, hps, by rw [List.cons_append], hp⟩

/-- A match at the start of a line is the first part. -/
theorem IsCut.mark (hfinds : Finds find M) {a : α} {mark rest : List Char} (hmark : M a mark rest)
    (h : IsCut M false rest lead ps) : IsCut M true (mark ++ rest) [] (⟨a, mark, lead⟩ :: ps) where
  whole := by rw [List.nil_append, partsText_cons, ← h.whole]
  marked before p after hps := by
    cases before with
    | nil =>
      obtain ⟨rfl, rfl⟩ := List.cons.inj hps
      exact ⟨rfl, by rwa [← h.whole]⟩
    | cons q before =>
      obtain ⟨rfl, hafter⟩ := List.cons.inj hps
      obtain ⟨hline, hp⟩ := h.marked before p after hafter
      refine ⟨?_, hp⟩
      rw [List.nil_append, partsText_cons, startsLine_append,
        startsLine_of_ne_nil (ne_nil_of_startsLine hline) _ false]
      exact hline
  all x b mark' rest' hcs hline hmark' := by
    have hfound : find (mark' ++ rest') = some (b, rest') := hfinds.iff.2 ⟨mark', rfl, hmark'⟩
    have hinside (y z : List Char) (hy : mark = y ++ z) (hstart : startsLine false y = true)
        (hz : mark' ++ rest' = z ++ rest) : False := by
      have hnone := hfinds.apart (hy ▸ hmark) hstart
      rw [← hz, hfound] at hnone
      cases hnone
    rcases List.append_eq_append_iff.1 hcs with ⟨y, rfl, hrest⟩ | ⟨y, rfl, hrest⟩
    · -- it starts behind the first match, or just where that ends
      rw [startsLine_append] at hline
      by_cases hy : y = []
      · subst hy
        have hline : startsLine true mark = true := hline
        rw [startsLine_of_ne_nil (hfinds.nonempty hmark) true false] at hline
        exact (hinside mark [] (List.append_nil mark).symm hline hrest.symm).elim
      · rw [startsLine_of_ne_nil hy _ false] at hline
        obtain ⟨before, p, after, hps, rfl, hp⟩ := h.all y b mark' rest' hrest hline hmark'
        exact ⟨⟨a, mark, lead⟩ :: before, p, after, by rw [hps, List.cons_append],
          by rw [List.nil_append, partsText_cons], hp⟩
    · by_cases hx : x = []
      · -- it is the first match
        subst hx
        have hsame : find (mark' ++ rest') = some (a, rest) :=
          hfinds.iff.2 ⟨y, hrest, hmark⟩
        rw [hfound] at hsame
        obtain ⟨rfl, rfl⟩ := Prod.mk.inj (Option.some.inj hsame)
        exact ⟨[], _, ps, rfl, rfl, rfl, (List.append_cancel_right hrest).symm⟩
      · rw [startsLine_of_ne_nil hx _ false] at hline
        exact (hinside x y rfl hline hrest).elim

/-- **Every text can be cut.** The cuts are made as the finder goes through the text. -/
theorem exists_cut (hfinds : Finds find M) (lineStart : Bool) (cs : List Char) :
    ∃ lead ps, IsCut M lineStart cs lead ps := by
  fun_induction pieces find lineStart cs with
  | case1 => exact ⟨[], [], .nil hfinds⟩
  | case2 lineStart c r a rest hfound _ ih =>
    obtain ⟨lead, ps, hcut⟩ := ih
    split at hfound
    · next hline =>
      obtain ⟨mark, hcs, hmark⟩ := hfinds.iff.1 hfound
      rw [hline, hcs]
      exact ⟨[], _, .mark hfinds hmark hcut⟩
    · cases hfound
  | case3 lineStart c r a rest hfound hlen ih =>
    split at hfound
    · obtain ⟨mark, hcs, hmark⟩ := hfinds.iff.1 hfound
      have hpos := List.length_pos_iff.2 (hfinds.nonempty hmark)
      rw [hcs, List.length_append] at hlen
      omega
    · cases hfound
  | case4 lineStart c r hfound ih =>
    obtain ⟨lead, ps, hcut⟩ := ih
    refine ⟨c :: lead, ps, .plain hfinds (fun hline => ?_) hcut⟩
    rwa [dif_pos hline] at hfound

/-! ## The parts of a cut -/

/-- In the text before the first match nothing is found, with what follows in view. -/
theorem IsCut.not_found (hfinds : Finds find M) (h : IsCut M lineStart cs lead ps) :
    ∀ pre post, lead = pre ++ post → post ≠ [] → startsLine lineStart pre = true →
      find (post ++ partsText ps) = none := by
  intro pre post hlead hpost hline
  cases hfound : find (post ++ partsText ps) with
  | none => rfl
  | some found =>
    obtain ⟨mark, hcs, hmark⟩ := hfinds.iff.1 hfound
    have hwhole : cs = pre ++ (mark ++ found.2) := by
      rw [h.whole, hlead, List.append_assoc, hcs]
    obtain ⟨before, p, after, -, hpre, -⟩ := h.all pre _ mark _ hwhole hline hmark
    rw [hlead, List.append_assoc, List.self_eq_append_right, List.append_eq_nil_iff] at hpre
    exact absurd hpre.1 hpost

/-- What follows the first match is cut as the text was. -/
theorem IsCut.tail (hfinds : Finds find M) (h : IsCut M lineStart cs lead (p :: ps)) :
    IsCut M false (p.body ++ partsText ps) p.body ps where
  whole := rfl
  marked before q after hps := by
    obtain ⟨-, hmark⟩ := h.marked [] p ps rfl
    obtain ⟨hline, hq⟩ := h.marked (p :: before) q after (by rw [hps, List.cons_append])
    refine ⟨?_, hq⟩
    rw [partsText_cons, startsLine_append, startsLine_append] at hline
    by_cases hnil : p.body ++ partsText before = []
    · -- a match cannot follow another at once
      have hline : startsLine false p.mark = true := by
        rw [hnil] at hline
        rwa [startsLine_of_ne_nil (hfinds.nonempty hmark) false]
      have htext : p.body ++ partsText ps = q.mark ++ (q.body ++ partsText after) := by
        rw [hps, partsText_append, ← List.append_assoc, hnil, List.nil_append, partsText_cons]
      have hfound : find (p.body ++ partsText ps) = some (q.found, q.body ++ partsText after) :=
        hfinds.iff.2 ⟨q.mark, htext, hq⟩
      rw [← List.append_nil p.mark] at hmark
      have hnone : find ([] ++ (p.body ++ partsText ps)) = none := hfinds.apart hmark hline
      rw [List.nil_append, hfound] at hnone
      cases hnone
    · rw [startsLine_of_ne_nil hnil false]
      exact hline
  all x a mark rest hcs hline hmark := by
    have hx := ne_nil_of_startsLine hline
    have hwhole : cs = (lead ++ (p.mark ++ x)) ++ (mark ++ rest) := by
      rw [h.whole, partsText_cons, hcs, List.append_assoc, List.append_assoc]
    have hstart : startsLine lineStart (lead ++ (p.mark ++ x)) = true := by
      rw [startsLine_append, startsLine_append, startsLine_of_ne_nil hx _ false, hline]
    obtain ⟨before, q, after, hps, hx', hq⟩ := h.all _ a mark rest hwhole hstart hmark
    rw [List.append_cancel_left_eq] at hx'
    cases before with
    | nil => exact absurd (List.append_eq_nil_iff.1 hx').2 hx
    | cons p' before =>
      obtain ⟨rfl, hafter⟩ := List.cons.inj hps
      rw [partsText_cons, List.append_cancel_left_eq] at hx'
      exact ⟨before, q, after, hafter, hx', hq⟩

/-- **The parts of a text do not depend on how it is cut**: they are those that `pieces` comes to. -/
theorem IsCut.sections_eq (hfinds : Finds find M) (h : IsCut M lineStart cs lead ps) :
    sections (pieces find lineStart cs) = (lead, ps.map fun p => (p.found, p.body)) := by
  induction ps generalizing lineStart cs lead with
  | nil =>
    have hlead := pieces_append [] lead lineStart (h.not_found hfinds)
    rw [h.whole, partsText, List.flatMap_nil, hlead, sections_plain, pieces]
    exact congrArg (·, []) (List.append_nil lead)
  | cons p ps ih =>
    have hlead := pieces_append (partsText (p :: ps)) lead lineStart (h.not_found hfinds)
    obtain ⟨hline, hmark⟩ := h.marked [] p ps rfl
    rw [partsText, List.flatMap_nil, List.append_nil] at hline
    have hfound : find (p.mark ++ (p.body ++ partsText ps)) =
        some (p.found, p.body ++ partsText ps) := hfinds.iff.2 ⟨p.mark, rfl, hmark⟩
    obtain ⟨c, mark, hc⟩ := List.exists_cons_of_ne_nil (hfinds.nonempty hmark)
    rw [hc, List.cons_append] at hfound
    rw [h.whole, hlead, sections_plain, hline, partsText_cons, hc, List.cons_append,
      pieces_mark hfound (by simp), sections, ih (h.tail hfinds)]
    exact congrArg (·, _) (List.append_nil lead)

theorem plainPart_eq (ps : List (Piece α)) :
    plainPart ps = (sections ps).1 ++ (sections ps).2.flatMap (·.2) := by
  induction ps with
  | nil => rfl
  | cons p ps ih =>
    cases p with
    | plain c => exact congrArg (c :: ·) ih
    | mark a => rw [plainPart, ih, sections, List.flatMap_cons, List.nil_append]

/-- What is left of a text without its matches. -/
theorem IsCut.plainPart_eq (hfinds : Finds find M) (h : IsCut M lineStart cs lead ps) :
    plainPart (pieces find lineStart cs) = lead ++ partsBody ps := by
  rw [Assistant.plainPart_eq, h.sections_eq hfinds, List.flatMap_map]
  rfl

end

end CloudScaffold.Assistant
