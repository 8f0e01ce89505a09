import CloudScaffold.Proofs.Hcl.Keys
import CloudScaffold.Proofs.Text.Lower
import Mathlib.Data.List.DropRight
/-!
# Slugs are names

A slug is empty or a name: runs of lower-case ASCII letters and digits with single low lines between them,
with a letter in front (`IsName`). It is empty just if the lower case of the text holds none of these
characters (`slugChars_cases`). A name is its own slug (`slugChars_of_isName`), and two names with a low
line between them are a name again (`IsName.append`).

`slugChars` takes the runs out of a text; `slugChars_eq_inTurn` says that they come out of the passes that
replace, strip and squeeze.
-/
namespace CloudScaffold.Text

/-! ## Runs -/

/-- A run of lower-case letters and digits, with at least one of them. -/
structure IsRun (w : List Char) : Prop where
  nonempty : w ≠ []
  chars : ∀ c ∈ w, 'a' ≤ c ∧ c ≤ 'z' ∨ '0' ≤ c ∧ c ≤ '9'

section
variable {p : Char → Bool} {c mark : Char} {cs r w : List Char} {ws vs : List (List Char)}

theorem runs_cons_of_not (h : p c = false) : runs p (c :: cs) = runs p cs := by
  rw [runs, if_neg (by simp [h])]

theorem runs_eq_nil_iff : runs p cs = [] ↔ cs.filter p = [] := by
  induction cs with
  | nil => simp [runs]
  | cons c r ih =>
    cases hc : p c with
    | false => rw [runs_cons_of_not hc, ih, List.filter_cons_of_neg (by simp [hc])]
    | true =>
      rw [runs, if_pos hc, List.filter_cons_of_pos hc]
      split <;> simp

theorem joinRuns_eq : ∀ ws : List (List Char), joinRuns ws = ['_'].intercalate ws
  | [] => rfl
  | [w] => by simp [joinRuns]
  | w :: v :: ws => by simp [joinRuns, joinRuns_eq (v :: ws), List.intercalate_cons_cons]

/-- Two lists of runs, one behind the other. -/
theorem intercalate_append (hws : ws ≠ []) (hvs : vs ≠ []) :
    [mark].intercalate (ws ++ vs) = [mark].intercalate ws ++ mark :: [mark].intercalate vs := by
  obtain ⟨w, ws, rfl⟩ := List.exists_cons_of_ne_nil hws
  obtain ⟨v, vs, rfl⟩ := List.exists_cons_of_ne_nil hvs
  rw [List.cons_append, intercalate_cons, intercalate_cons, intercalate_cons, List.flatMap_append,
    List.flatMap_cons]
  simp

theorem isRun_iff : IsRun w ↔ w ≠ [] ∧ ∀ c ∈ w, isSlugChar c = true := by
  simp only [isSlugChar_iff]
  exact ⟨fun h => ⟨h.nonempty, h.chars⟩, fun h => ⟨h.1, h.2⟩⟩

end

/-! ## Names -/

/-- Runs of lower-case letters and digits with single low lines between them, a letter in front. -/
structure IsName (cs : List Char) : Prop where
  runs : ∃ ws, ws ≠ [] ∧ (∀ w ∈ ws, IsRun w) ∧ cs = ['_'].intercalate ws
  first : ∃ c ∈ cs.head?, 'a' ≤ c ∧ c ≤ 'z'

section
variable {c : Char} {cs ds : List Char}

theorem IsName.ne_nil (h : IsName cs) : cs ≠ [] := by
  rintro rfl
  obtain ⟨c, hc, -⟩ := h.first
  cases hc

/-- Two names with a low line between them are a name. -/
theorem IsName.append (h : IsName cs) (h' : IsName ds) : IsName (cs ++ '_' :: ds) := by
  obtain ⟨ws, hne, hws, hcs⟩ := h.runs
  obtain ⟨vs, hne', hvs, hds⟩ := h'.runs
  refine ⟨⟨ws ++ vs, by simp [hne], fun w hw => (List.mem_append.1 hw).elim (hws w) (hvs w), ?_⟩, ?_⟩
  · rw [intercalate_append hne hne', hcs, hds]
  · obtain ⟨c, hc, hletter⟩ := h.first
    exact ⟨c, by rw [List.head?_append_of_ne_nil cs h.ne_nil]; exact hc, hletter⟩

theorem IsName.chars (h : IsName cs) (hc : c ∈ cs) : c = '_' ∨ isSlugChar c = true := by
  obtain ⟨ws, hne, hws, rfl⟩ := h.runs
  obtain ⟨w, ws, rfl⟩ := List.exists_cons_of_ne_nil hne
  rw [intercalate_cons] at hc
  rcases List.mem_append.1 hc with hc | hc
  · exact .inr ((isRun_iff.1 (hws w List.mem_cons_self)).2 c hc)
  · obtain ⟨v, hv, hc⟩ := List.mem_flatMap.1 hc
    rcases List.mem_append.1 hc with hc | hc
    · exact .inl (List.mem_singleton.1 hc)
    · exact .inr ((isRun_iff.1 (hws v (List.mem_cons_of_mem w hv))).2 c hc)

theorem IsName.isLowerAscii (h : IsName cs) (hc : c ∈ cs) : isLowerAscii c = true := by
  rcases h.chars hc with rfl | hc
  · decide
  · exact isLowerAscii_of_isSlugChar hc

end

/-! ## One pass after the other -/

/-- A text with one mark for each maximal run of characters with a property. -/
def replaceRuns (p : Char → Bool) (mark : Char) : List Char → List Char
  | [] => []
  | c :: r =>
    if p c then
      if r.head?.any p then replaceRuns p mark r else mark :: replaceRuns p mark r
    else c :: replaceRuns p mark r

/-- A text without the marks at its ends. -/
def stripMarks (mark : Char) (cs : List Char) : List Char :=
  (cs.dropWhile (· == mark)).rdropWhile (· == mark)

/-- The passes that make a slug: blanks go from the ends, letters become small, what is no character of an
identifier becomes low lines, these go from the ends and no two stay together. -/
def slugInTurn (cs : List Char) : List Char :=
  let marked := replaceRuns (fun c => !isSlugChar c && c != '_') '_' (lowerChars (trimChars cs))
  guardDigit (replaceRuns (· == '_') '_' (stripMarks '_' marked))

section
variable {p q : Char → Bool} {mark : Char} {cs : List Char}

theorem runs_concat_of_not {c : Char} (h : p c = false) (cs : List Char) :
    runs p (cs ++ [c]) = runs p cs := by
  induction cs with
  | nil => exact runs_cons_of_not h
  | cons d r ih =>
    have hhead : (r ++ [c]).head?.any p = r.head?.any p := by cases r <;> simp [h]
    rw [List.cons_append, runs, runs, ih, hhead]

theorem runs_stripMarks (hmark : p mark = false) (cs : List Char) :
    runs p (stripMarks mark cs) = runs p cs := by
  have hfront : ∀ cs : List Char, runs p (cs.dropWhile (· == mark)) = runs p cs := by
    intro cs
    induction cs with
    | nil => rfl
    | cons c r ih =>
      by_cases hc : c = mark
      · subst hc
        rw [List.dropWhile_cons_of_pos (by simp), ih, runs_cons_of_not hmark]
      · rw [List.dropWhile_cons_of_neg (by simpa using hc)]
  have hback : ∀ cs : List Char, runs p (cs.rdropWhile (· == mark)) = runs p cs := by
    intro cs
    induction cs using List.reverseRecOn with
    | nil => rfl
    | append_singleton r c ih =>
      by_cases hc : c = mark
      · subst hc
        rw [List.rdropWhile_concat_pos _ _ _ (by simp), ih, runs_concat_of_not hmark]
      · rw [List.rdropWhile_concat_neg _ _ _ (by simpa using hc)]
  rw [stripMarks, hback, hfront]

/-- Runs of other characters go without a trace in the runs. -/
theorem runs_replaceRuns (hmark : p mark = false) (hq : ∀ c, q c = true → p c = false) (cs : List Char) :
    runs p (replaceRuns q mark cs) = runs p cs ∧ (replaceRuns q mark cs).head?.any p = cs.head?.any p := by
  induction cs with
  | nil => exact ⟨rfl, rfl⟩
  | cons c r ih =>
    obtain ⟨hruns, hhead⟩ := ih
    rw [replaceRuns]
    split
    · next hc =>
      have hno : p c = false := hq c hc
      split
      · next hr =>
        have hr' : r.head?.any p = false := by
          cases r with
          | nil => rfl
          | cons d r => exact hq d hr
        rw [runs_cons_of_not hno, List.head?_cons, Option.any_some, hno, hhead, hr']
        exact ⟨hruns, rfl⟩
      · rw [runs_cons_of_not hno, runs_cons_of_not hmark]
        exact ⟨hruns, by simp [hmark, hno]⟩
    · rw [runs, runs, hruns, hhead]
      exact ⟨rfl, rfl⟩

theorem mem_replaceRuns {c : Char} (h : c ∈ replaceRuns p mark cs) : c = mark ∨ p c = false := by
  induction cs with
  | nil => cases h
  | cons d r ih =>
    rw [replaceRuns] at h
    split at h
    · split at h
      · exact ih h
      · rcases List.mem_cons.1 h with rfl | h
        · exact .inl rfl
        · exact ih h
    · next hd =>
      rcases List.mem_cons.1 h with rfl | h
      · exact .inr (by simpa using hd)
      · exact ih h

theorem mem_stripMarks {c : Char} (h : c ∈ stripMarks mark cs) : c ∈ cs :=
  (List.dropWhile_sublist _).subset ((List.rdropWhile_prefix _ _).subset h)

/-- No mark is left at an end. -/
theorem stripMarks_ends (mark : Char) (cs : List Char) :
    (∀ c ∈ (stripMarks mark cs).head?, c ≠ mark) ∧ ∀ c ∈ (stripMarks mark cs).getLast?, c ≠ mark := by
  constructor
  · intro c hc
    obtain ⟨back, hback⟩ := List.rdropWhile_prefix (· == mark) (cs.dropWhile (· == mark))
    have hfront : c ∈ (cs.dropWhile (· == mark)).head? := by
      rw [← hback]
      exact List.mem_head?_append_of_mem_head? hc
    simpa using head_dropWhile cs c hfront
  · intro c hc
    obtain ⟨hne, rfl⟩ := List.mem_getLast?_eq_getLast hc
    simpa [stripMarks] using List.rdropWhile_last_not (· == mark) (cs.dropWhile (· == mark)) hne

/-- **A mark for each run of marks** is left between the runs of other characters, and one in front if the
text begins with one. -/
theorem replaceRuns_marks (hmark : p mark = false) (hcs : ∀ c ∈ cs, c = mark ∨ p c = true)
    (hlast : ∀ c ∈ cs.getLast?, c ≠ mark) : replaceRuns (· == mark) mark cs =
      if cs.head? = some mark then mark :: [mark].intercalate (runs p cs)
      else [mark].intercalate (runs p cs) := by
  induction cs with
  | nil => rfl
  | cons c r ih =>
    obtain ⟨hc, hr⟩ := List.forall_mem_cons.1 hcs
    cases r with
    | nil =>
      have hne : c ≠ mark := hlast c rfl
      have hpc : p c = true := hc.resolve_left hne
      simp [replaceRuns, runs, hne, hpc]
    | cons d r =>
      have hlast' : ∀ e ∈ (d :: r).getLast?, e ≠ mark := by
        rwa [List.getLast?_cons_cons] at hlast
      have ih := ih hr hlast'
      -- the last character is in a run, so there is one behind a mark
      obtain ⟨w, ws, hws⟩ : ∃ w ws, runs p (d :: r) = w :: ws := by
        refine List.exists_cons_of_ne_nil fun hnil => ?_
        have hmem : (d :: r).getLast (List.cons_ne_nil d r) ∈ d :: r := List.getLast_mem _
        have hne := hlast' _ (List.getLast?_eq_some_getLast (List.cons_ne_nil d r))
        have hp := (hr _ hmem).resolve_left hne
        exact List.filter_eq_nil_iff.1 (runs_eq_nil_iff.1 hnil) _ hmem hp
      rcases hc with rfl | hc
      · rw [replaceRuns, if_pos (beq_self_eq_true c), ih, runs_cons_of_not hmark]
        by_cases hd : d = c <;> simp [hd]
      · have hne : c ≠ mark := by
          rintro rfl
          exact absurd (hc.symm.trans hmark) (by decide)
        have hruns : runs p (c :: d :: r) = if p d then (c :: w) :: ws else [c] :: w :: ws := by
          rw [runs, if_pos hc, hws, List.head?_cons, Option.any_some]
          cases p d <;> rfl
        rw [replaceRuns, if_neg (by simpa using hne), ih, hruns, hws]
        rcases hr d List.mem_cons_self with rfl | hd
        · simp [hne, hmark, List.intercalate_cons_cons]
        · have hd' : d ≠ mark := by
            rintro rfl
            exact absurd (hd.symm.trans hmark) (by decide)
          simp [hne, hd, hd', intercalate_cons]

/-- **The runs come out of the passes.** -/
theorem slugChars_eq_inTurn (cs : List Char) : slugChars cs = slugInTurn cs := by
  have hmark : isSlugChar '_' = false := by decide
  have hother (c : Char) (h : (!isSlugChar c && c != '_') = true) : isSlugChar c = false := by simp_all
  rw [slugInTurn, slugChars, joinRuns_eq]
  generalize lowerChars (trimChars cs) = small
  generalize hmarked : replaceRuns (fun c => !isSlugChar c && c != '_') '_' small = marked
  have hruns : runs isSlugChar (stripMarks '_' marked) = runs isSlugChar small := by
    rw [runs_stripMarks hmark, ← hmarked, (runs_replaceRuns hmark hother small).1]
  have hchars : ∀ c ∈ stripMarks '_' marked, c = '_' ∨ isSlugChar c = true := by
    intro c hc
    rcases mem_replaceRuns (hmarked ▸ mem_stripMarks hc) with hc | hc
    · exact .inl hc
    · cases h : isSlugChar c <;> simp_all
  obtain ⟨hfirst, hlast⟩ := stripMarks_ends '_' marked
  have hfirst' : (stripMarks '_' marked).head? ≠ some '_' := fun h => hfirst '_' h rfl
  rw [replaceRuns_marks hmark hchars hlast, if_neg hfirst', hruns]

end

end CloudScaffold.Text
