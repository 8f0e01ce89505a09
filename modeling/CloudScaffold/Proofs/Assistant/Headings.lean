import CloudScaffold.Proofs.Assistant.Lossless
import CloudScaffold.Text.Parts
/-!
# Headings

The files of a reply are named by its headings, each of which is one line: a hash sign, blanks, the name
and at most blanks behind it (`IsHeading`). The names of the files are those of the headings, in order
(`parseFiles_headings`).

The blanks of a marker may be line breaks, and so there is an exception: a hash sign alone on its line
starts a file if the next line that is not blank holds a name and nothing else (`IsSplitHeading`). In a
reply with such lines there are files that no heading names, and the theorem says that there are none in
any other.

Lines are told apart by line breaks alone, as they are where markers are looked for.
-/
namespace CloudScaffold.Assistant

open Text

/-! ## Lines that start a file -/

/-- A hash sign, one blank or more, a name, and nothing but blanks behind it. -/
inductive IsHeading (name : String) : List Char → Prop
  | intro {front back : List Char} (hname : IsFileName name) (hne : front ≠ [])
      (hfront : ∀ c ∈ front, isBlank c = true) (hback : ∀ c ∈ back, isBlank c = true) :
      IsHeading name ('#' :: (front ++ (name.toList ++ back)))

/-- A name alone on its line, behind lines of blanks. -/
inductive NameBelow (name : String) : List (List Char) → Prop
  | here {front back : List Char} {lines : List (List Char)} (hfront : ∀ c ∈ front, isBlank c = true)
      (hback : ∀ c ∈ back, isBlank c = true) :
      NameBelow name ((front ++ (name.toList ++ back)) :: lines)
  | skip {line : List Char} {lines : List (List Char)} (hline : ∀ c ∈ line, isBlank c = true)
      (h : NameBelow name lines) : NameBelow name (line :: lines)

/-- A hash sign alone on its line, and a name below it. -/
inductive IsSplitHeading (name : String) : List (List Char) → Prop
  | intro {blanks : List Char} {lines : List (List Char)} (hname : IsFileName name)
      (hblanks : ∀ c ∈ blanks, isBlank c = true) (hbelow : NameBelow name lines) :
      IsSplitHeading name (('#' :: blanks) :: lines)

/-- Whether a hash sign and the name below it stand somewhere among lines. -/
def HasSplitHeading (lines : List (List Char)) : Prop :=
  ∃ name here, here <:+ lines ∧ IsSplitHeading name here

/-- The names that the headings among lines give, in order. -/
inductive Headings : List (List Char) → List String → Prop
  | nil : Headings [] []
  | heading {name : String} {line : List Char} {lines : List (List Char)} {names : List String}
      (h : IsHeading name line) (hrest : Headings lines names) :
      Headings (line :: lines) (name :: names)
  | other {line : List Char} {lines : List (List Char)} {names : List String}
      (h : ∀ name, ¬ IsHeading name line) (hrest : Headings lines names) : Headings (line :: lines) names

section
variable {name : String} {line : List Char} {lines : List (List Char)} {names : List String}

theorem hasSplitHeading_cons : HasSplitHeading (line :: lines) ↔
    (∃ name, IsSplitHeading name (line :: lines)) ∨ HasSplitHeading lines := by
  simp only [HasSplitHeading, List.suffix_cons_iff]
  constructor
  · rintro ⟨name, here, rfl | hhere, h⟩
    · exact .inl ⟨name, h⟩
    · exact .inr ⟨name, here, hhere, h⟩
  · rintro (⟨name, h⟩ | ⟨name, here, hhere, h⟩)
    · exact ⟨name, _, .inl rfl, h⟩
    · exact ⟨name, here, .inr hhere, h⟩

theorem not_hasSplitHeading_nil : ¬ HasSplitHeading [] := by
  rintro ⟨name, here, hhere, h⟩
  rw [List.suffix_nil.1 hhere] at h
  cases h

theorem IsFileName.exists_nonblank (h : IsFileName name) : ∃ c ∈ name.toList, isBlank c = false := by
  obtain ⟨stem, hne, hstem, hname⟩ := h
  obtain ⟨c, r, rfl⟩ := List.exists_cons_of_ne_nil hne
  exact ⟨c, by simp [hname], isBlank_of_isNameChar (hstem c List.mem_cons_self)⟩

/-- A heading is more than a hash sign and blanks. -/
theorem IsHeading.nonblank (h : IsHeading name line) :
    line.head? = some '#' ∧ line.tail.all isBlank = false := by
  cases h with
  | intro hname hne hfront hback =>
    obtain ⟨c, hc, hblank⟩ := hname.exists_nonblank
    refine ⟨rfl, List.all_eq_false.2 ⟨c, ?_, by simp [hblank]⟩⟩
    exact List.mem_append_right _ (List.mem_append_left _ hc)

/-- The line on which a split heading starts is no more than that. -/
theorem IsSplitHeading.blank (h : IsSplitHeading name (line :: lines)) :
    line.head? = some '#' ∧ line.tail.all isBlank = true := by
  cases h with
  | intro hname hblanks hbelow => exact ⟨rfl, List.all_eq_true.2 hblanks⟩

theorem IsHeading.not_isSplitHeading {other : String} (h : IsHeading name line) :
    ¬ IsSplitHeading other (line :: lines) := by
  intro hsplit
  have hblank := hsplit.blank.2
  rw [h.nonblank.2] at hblank
  cases hblank

/-- Where no hash sign stands alone on its line, there are no split headings. -/
theorem not_hasSplitHeading (h : ∀ l ∈ lines, l.head? = some '#' → l.tail.all isBlank = false) :
    ¬ HasSplitHeading lines := by
  rintro ⟨name, here, hhere, hsplit⟩
  obtain ⟨l, ls, rfl⟩ : ∃ l ls, here = l :: ls := by
    cases hsplit
    exact ⟨_, _, rfl⟩
  obtain ⟨hhash, hblank⟩ := hsplit.blank
  rw [h l (hhere.subset List.mem_cons_self) hhash] at hblank
  cases hblank

/-- Where a heading stands, its name comes first. -/
theorem IsHeading.headings_iff (h : IsHeading name line) :
    Headings (line :: lines) (name :: names) ↔ Headings lines names := by
  refine ⟨fun hall => ?_, .heading h⟩
  cases hall with
  | heading _ hrest => exact hrest
  | other hno _ => exact absurd h (hno name)

theorem headings_cons_of_not (h : ∀ name, ¬ IsHeading name line) :
    Headings (line :: lines) names ↔ Headings lines names := by
  refine ⟨fun hall => ?_, .other h⟩
  cases hall with
  | heading hhead _ => exact absurd hhead (h _)
  | other _ hrest => exact hrest

end

/-! ## The starts of lines, one by one -/

section
variable {α : Type} {find : Finder α} {M : Matching α} {lineStart : Bool} {line cs rest : List Char}

/-- What a pattern finds at the starts of lines, whether or not they stand in what it found before. -/
def foundAt (find : Finder α) : Bool → List Char → List α
  | _, [] => []
  | lineStart, c :: r =>
    (if lineStart then (find (c :: r)).map (·.1) else none).toList ++ foundAt find (c == '\n') r

/-- A text without finds adds nothing to what is found behind it. -/
theorem foundAt_append : ∀ {xs : List Char} {lineStart : Bool},
    (∀ x y, xs = x ++ y → startsLine lineStart x = true → find (y ++ rest) = none) →
      foundAt find lineStart (xs ++ rest) = foundAt find false rest
  | [], lineStart, h => by
    cases lineStart with
    | false => rfl
    | true =>
      cases rest with
      | nil => rfl
      | cons c r =>
        have hnone : find (c :: r) = none := h [] [] rfl rfl
        simp [foundAt, hnone]
  | x :: xs, lineStart, h => by
    have hhead : (if lineStart then (find (x :: (xs ++ rest))).map (·.1) else none) = none := by
      split
      · next hl => rw [← List.cons_append, h [] (x :: xs) rfl hl]; rfl
      · rfl
    have hrest : foundAt find (x == '\n') (xs ++ rest) = foundAt find false rest :=
      foundAt_append fun y z hxs hl =>
        h (x :: y) z (by rw [hxs, List.cons_append]) (by rwa [startsLine_cons])
    rw [List.cons_append, foundAt, hhead, hrest]
    rfl

/-- Nothing is found in a match but the match itself. -/
theorem foundAt_match (hfinds : Finds find M) {a : α} {mark : List Char} (h : M a mark rest) :
    foundAt find true (mark ++ rest) = a :: foundAt find false rest := by
  obtain ⟨c, m, rfl⟩ := List.exists_cons_of_ne_nil (hfinds.nonempty h)
  have hfound : find (c :: (m ++ rest)) = some (a, rest) := hfinds.iff.2 ⟨_, rfl, h⟩
  have hinside : foundAt find (c == '\n') (m ++ rest) = foundAt find false rest :=
    foundAt_append fun x y hm hl =>
      hfinds.apart (x := c :: x) (by rwa [List.cons_append, ← hm]) (by rwa [startsLine_cons])
  rw [List.cons_append, foundAt, hfound, hinside]
  rfl

/-- **What `pieces` finds one after the other is found at each start of a line by itself.** -/
theorem sections_foundAt (hfinds : Finds find M) (lineStart : Bool) (cs : List Char) :
    (sections (pieces find lineStart cs)).2.map (·.1) = foundAt find lineStart cs := by
  fun_induction pieces find lineStart cs with
  | case1 => rfl
  | case2 lineStart c r a rest hfound _ ih =>
    split at hfound
    · next hline =>
      obtain ⟨mark, hcs, hmark⟩ := hfinds.iff.1 hfound
      rw [hline, hcs, foundAt_match hfinds hmark, ← ih]
      rfl
    · cases hfound
  | case3 lineStart c r a rest hfound hlen ih =>
    split at hfound
    · obtain ⟨mark, hcs, hmark⟩ := hfinds.iff.1 hfound
      have hpos := List.length_pos_iff.2 (hfinds.nonempty hmark)
      rw [hcs, List.length_append] at hlen
      omega
    · cases hfound
  | case4 lineStart c r hfound ih =>
    have hnone : (if lineStart then (find (c :: r)).map (·.1) else none) = none := by
      split at hfound
      · next hline => rw [if_pos hline, hfound]; rfl
      · next hline => rw [if_neg hline]
    rw [foundAt, hnone, ← ih]
    rfl

/-- What is found at the start of a line comes first. -/
theorem foundAt_lineStart (hnil : find [] = none) :
    foundAt find true cs = ((find cs).map (·.1)).toList ++ foundAt find false cs := by
  cases cs with
  | nil => simp [foundAt, hnil]
  | cons c r => rfl

theorem foundAt_line (h : '\n' ∉ line) : foundAt find false line = [] := by
  induction line with
  | nil => rfl
  | cons c line ih =>
    rw [List.mem_cons, not_or] at h
    have hc : (c == '\n') = false := beq_eq_false_iff_ne.2 (Ne.symm h.1)
    rw [foundAt, hc, ih h.2]
    rfl

theorem foundAt_line_append (h : '\n' ∉ line) :
    foundAt find false (line ++ '\n' :: rest) = foundAt find true rest := by
  induction line with
  | nil => rfl
  | cons c line ih =>
    rw [List.mem_cons, not_or] at h
    have hc : (c == '\n') = false := beq_eq_false_iff_ne.2 (Ne.symm h.1)
    rw [List.cons_append, foundAt, hc, ih h.2]
    rfl

end

/-! ## Lines as one text -/

/-- Lines with line breaks between them. -/
def joined (lines : List (List Char)) : List Char := ['\n'].intercalate lines

/-- The names that markers give where one of some lines starts. -/
def markedNames : List (List Char) → List String
  | [] => []
  | line :: lines =>
    ((marker? (joined (line :: lines))).map fun m => String.ofList m.1).toList ++ markedNames lines

section
variable {name : String} {line front back rest : List Char} {lines : List (List Char)}

theorem joined_cons (line : List Char) (lines : List (List Char)) :
    ∃ rest, joined (line :: lines) = line ++ rest ∧ EndsLine rest := by
  cases lines with
  | nil => exact ⟨[], by simp [joined], nofun⟩
  | cons l lines => exact ⟨'\n' :: joined (l :: lines), by simp [joined, List.intercalate_cons_cons],
      fun c hc => (Option.some.inj hc).symm⟩

theorem joined_cons_of_ne_nil (h : lines ≠ []) :
    joined (line :: lines) = line ++ '\n' :: joined lines := by
  obtain ⟨l, ls, rfl⟩ := List.exists_cons_of_ne_nil h
  simp [joined, List.intercalate_cons_cons]

theorem map_foundAt_joined : ∀ {lines : List (List Char)}, (∀ l ∈ lines, '\n' ∉ l) →
    (foundAt marker? true (joined lines)).map .ofList = markedNames lines
  | [], _ => rfl
  | line :: lines, h => by
    obtain ⟨hline, hlines⟩ := List.forall_mem_cons.1 h
    have hrest : foundAt marker? false (joined (line :: lines)) = foundAt marker? true (joined lines) := by
      cases lines with
      | nil => rw [joined, List.intercalate_singleton, foundAt_line hline]; rfl
      | cons l lines =>
        rw [joined_cons_of_ne_nil (List.cons_ne_nil l lines), foundAt_line_append hline]
    rw [foundAt_lineStart rfl, hrest, List.map_append, map_foundAt_joined hlines, markedNames]
    cases marker? (joined (line :: lines)) <;> rfl

/-! ## Markers at the starts of lines -/

/-- A marker goes as far as its last line does. -/
theorem exists_marker? (hname : IsFileName name) (hne : front ≠ [])
    (hfront : ∀ c ∈ front, isBlank c = true) (hback : ∀ c ∈ back, isBlank c = true)
    (hends : EndsLine rest) : ∃ rest',
      marker? ('#' :: (front ++ (name.toList ++ (back ++ rest)))) = some (name.toList, rest') := by
  obtain ⟨rest', hrest⟩ := Option.ne_none_iff_exists'.1 (afterBlanks_ne_none hback hends)
  obtain ⟨bs, hbs, hend⟩ := afterBlanks_eq_some_iff.1 hrest
  obtain ⟨stem, hstem, hchars, htext⟩ := hname
  have hmark := (IsMarker.intro hne hfront hstem hchars hend).marker?
  refine ⟨rest', ?_⟩
  rw [htext, hbs, ← hmark]
  simp

/-- A line break between blanks is a blank like them. -/
theorem blank_lines {xs ys : List Char} (hxs : ∀ c ∈ xs, isBlank c = true)
    (hys : ∀ c ∈ ys, isBlank c = true) : ∀ c ∈ xs ++ '\n' :: ys, isBlank c = true := by
  rw [List.forall_mem_append, List.forall_mem_cons]
  exact ⟨hxs, by decide, hys⟩

theorem NameBelow.joined (h : NameBelow name lines) : ∃ front back rest,
    joined lines = front ++ (name.toList ++ (back ++ rest)) ∧ (∀ c ∈ front, isBlank c = true) ∧
      (∀ c ∈ back, isBlank c = true) ∧ EndsLine rest := by
  induction h with
  | @here front back lines hfront hback =>
    obtain ⟨rest, hrest, hends⟩ := joined_cons (front ++ (name.toList ++ back)) lines
    exact ⟨front, back, rest, by rw [hrest]; simp, hfront, hback, hends⟩
  | @skip line lines hline h ih =>
    obtain ⟨front, back, rest, htext, hfront, hback, hends⟩ := ih
    have hne : lines ≠ [] := by
      rintro rfl
      cases h
    refine ⟨line ++ '\n' :: front, back, rest, ?_, blank_lines hline hfront, hback, hends⟩
    rw [joined_cons_of_ne_nil hne, htext]
    simp

/-- A name stands alone on its line if blanks lead from it to the end of a line. -/
theorem partsAt_name (hname : IsFileName name) (hback : ∀ c ∈ back, isBlank c = true)
    (hends : EndsLine rest) : ∃ back' lines, (∀ c ∈ back', isBlank c = true) ∧
      partsAt '\n' (name.toList ++ (back ++ rest)) = (name.toList ++ back') :: lines := by
  have hno {bs : List Char} (hbs : '\n' ∉ bs) : '\n' ∉ name.toList ++ bs := by
    simp [hname.no_lineBreak, hbs]
  by_cases hbreak : '\n' ∈ back
  · obtain ⟨bs, bs', rfl, hbs⟩ := List.eq_append_cons_of_mem hbreak
    refine ⟨bs, partsAt '\n' (bs' ++ rest), fun c hc => hback c (List.mem_append_left _ hc), ?_⟩
    rw [List.append_assoc, List.cons_append, ← List.append_assoc, partsAt_append_mark _ (hno hbs)]
  · refine ⟨back, (partsAt '\n' rest).tail, hback, ?_⟩
    cases rest with
    | nil => rw [List.append_nil, partsAt_of_not_mem (hno hbreak)]; rfl
    | cons c rest =>
      obtain rfl : c = '\n' := hends c rfl
      rw [← List.append_assoc, partsAt_append_mark _ (hno hbreak), partsAt, if_pos rfl]
      rfl

/-- Blanks in front of a name are lines of blanks, and the blanks in front of it on its line. -/
theorem nameBelow_partsAt (hname : IsFileName name) (hback : ∀ c ∈ back, isBlank c = true)
    (hends : EndsLine rest) : ∀ {front : List Char}, (∀ c ∈ front, isBlank c = true) →
      NameBelow name (partsAt '\n' (front ++ (name.toList ++ (back ++ rest))))
  | [], _ => by
    obtain ⟨back', lines, hback', hlines⟩ := partsAt_name hname hback hends
    have hhere : NameBelow name (([] ++ (name.toList ++ back')) :: lines) :=
      .here (List.forall_mem_nil _) hback'
    rwa [List.nil_append, hlines]
  | c :: front, h => by
    obtain ⟨hc, hfront⟩ := List.forall_mem_cons.1 h
    have ih := nameBelow_partsAt hname hback hends hfront
    rw [List.cons_append]
    by_cases hbreak : c = '\n'
    · rw [partsAt, if_pos hbreak]
      exact .skip (List.forall_mem_nil _) ih
    · obtain ⟨l, ls, hls⟩ := List.exists_cons_of_ne_nil
        (partsAt_ne_nil '\n' (front ++ (name.toList ++ (back ++ rest))))
      rw [partsAt_cons_of_ne hbreak hls]
      rw [hls] at ih
      cases ih with
      | @here front' _ _ hfront' hback' =>
        rw [← List.cons_append]
        exact .here (List.forall_mem_cons.2 ⟨hc, hfront'⟩) hback'
      | skip hline hbelow => exact .skip (List.forall_mem_cons.2 ⟨hc, hline⟩) hbelow

/-- The lines of a text that starts with a marker. -/
theorem heading_of_text (hname : IsFileName name) (hne : front ≠ [])
    (hfront : ∀ c ∈ front, isBlank c = true) (hback : ∀ c ∈ back, isBlank c = true)
    (hends : EndsLine rest)
    (hlines : partsAt '\n' ('#' :: (front ++ (name.toList ++ (back ++ rest)))) = line :: lines) :
    IsHeading name line ∨ IsSplitHeading name (line :: lines) := by
  obtain ⟨c, front, rfl⟩ := List.exists_cons_of_ne_nil hne
  obtain ⟨hc, hfront⟩ := List.forall_mem_cons.1 hfront
  have hbelow := nameBelow_partsAt hname hback hends hfront
  rw [List.cons_append] at hlines
  by_cases hbreak : c = '\n'
  · have htail : partsAt '\n' (c :: (front ++ (name.toList ++ (back ++ rest)))) =
        [] :: partsAt '\n' (front ++ (name.toList ++ (back ++ rest))) := by rw [partsAt, if_pos hbreak]
    rw [partsAt_cons_of_ne (by decide) htail] at hlines
    cases hlines
    exact .inr (.intro hname (List.forall_mem_nil _) hbelow)
  · obtain ⟨l, ls, hls⟩ := List.exists_cons_of_ne_nil
      (partsAt_ne_nil '\n' (front ++ (name.toList ++ (back ++ rest))))
    rw [partsAt_cons_of_ne (by decide) (partsAt_cons_of_ne hbreak hls)] at hlines
    cases hlines
    rw [hls] at hbelow
    -- the name stands on the line of the hash sign, or below blanks that fill that line
    cases hbelow with
    | @here front' back' _ hfront' hback' =>
      rw [← List.cons_append]
      exact .inl (.intro hname (List.cons_ne_nil _ _) (List.forall_mem_cons.2 ⟨hc, hfront'⟩) hback')
    | skip hline hbelow =>
      exact .inr (.intro hname (List.forall_mem_cons.2 ⟨hc, hline⟩) hbelow)

/-- **A marker is a heading or a split heading.** -/
theorem marker?_joined_iff (h : ∀ l ∈ line :: lines, '\n' ∉ l) :
    (∃ rest, marker? (joined (line :: lines)) = some (name.toList, rest)) ↔
      IsHeading name line ∨ IsSplitHeading name (line :: lines) := by
  constructor
  · rintro ⟨rest, hfound⟩
    obtain ⟨mark, htext, hmark⟩ := isMarker_of_marker? hfound
    have hlines : partsAt '\n' (mark ++ rest) = line :: lines := by
      rw [← htext, joined, partsAt_intercalate (List.cons_ne_nil _ _) h]
    generalize hchars : name.toList = chars at hmark
    cases hmark with
    | @intro front stem back rest hne hfront hstem hname hend =>
      refine heading_of_text ⟨stem, hstem, hname, hchars⟩ hne hfront hend.blank hend.ends ?_
      rw [← hlines, hchars]
      simp
  · rintro (h | h)
    · cases h with
      | @intro front back hname hne hfront hback =>
        obtain ⟨rest, htext, hends⟩ := joined_cons ('#' :: (front ++ (name.toList ++ back))) lines
        obtain ⟨rest', hrest⟩ := exists_marker? hname hne hfront hback hends
        exact ⟨rest', by rw [htext, ← hrest]; simp⟩
    · cases h with
      | @intro blanks lines hname hblanks hbelow =>
        have hne : lines ≠ [] := by
          rintro rfl
          cases hbelow
        obtain ⟨front, back, rest, htext, hfront, hback, hends⟩ := hbelow.joined
        obtain ⟨rest', hrest⟩ :=
          exists_marker? hname (by simp) (blank_lines hblanks hfront) hback hends
        exact ⟨rest', by rw [joined_cons_of_ne_nil hne, htext, ← hrest]; simp⟩

/-! ## Headings and the names that are found -/

theorem markedNames_of_marker? (h : marker? (joined (line :: lines)) = some (name.toList, rest)) :
    markedNames (line :: lines) = name :: markedNames lines := by
  simp [markedNames, h]

/-- A line at which no marker starts, with what follows it in view. -/
theorem markedNames_of_none (h : ∀ l ∈ line :: lines, '\n' ∉ l) (hhead : ∀ name, ¬ IsHeading name line)
    (hsplit : ∀ name, ¬ IsSplitHeading name (line :: lines)) :
    markedNames (line :: lines) = markedNames lines := by
  have hnone : marker? (joined (line :: lines)) = none := by
    refine Option.eq_none_iff_forall_ne_some.2 fun found hfound => ?_
    have hname : marker? (joined (line :: lines)) =
        some ((String.ofList found.1).toList, found.2) := by rw [hfound, String.toList_ofList]
    exact ((marker?_joined_iff h).1 ⟨_, hname⟩).elim (hhead _) (hsplit _)
  simp [markedNames, hnone]

/-- What can start a file at a line: a heading, a split heading, or nothing. -/
theorem markedNames_cases (h : ∀ l ∈ line :: lines, '\n' ∉ l) :
    (∃ name, IsHeading name line ∧ markedNames (line :: lines) = name :: markedNames lines) ∨
    (∃ name, IsSplitHeading name (line :: lines) ∧ (∀ name, ¬ IsHeading name line) ∧
      markedNames (line :: lines) = name :: markedNames lines) ∨
    (∀ name, ¬ IsHeading name line) ∧ (∀ name, ¬ IsSplitHeading name (line :: lines)) ∧
      markedNames (line :: lines) = markedNames lines := by
  by_cases hhead : ∃ name, IsHeading name line
  · obtain ⟨name, hname⟩ := hhead
    obtain ⟨rest, hrest⟩ := (marker?_joined_iff h).2 (.inl hname)
    exact .inl ⟨name, hname, markedNames_of_marker? hrest⟩
  rw [not_exists] at hhead
  by_cases hsplit : ∃ name, IsSplitHeading name (line :: lines)
  · obtain ⟨name, hname⟩ := hsplit
    obtain ⟨rest, hrest⟩ := (marker?_joined_iff h).2 (.inr hname)
    exact .inr (.inl ⟨name, hname, hhead, markedNames_of_marker? hrest⟩)
  rw [not_exists] at hsplit
  exact .inr (.inr ⟨hhead, hsplit, markedNames_of_none h hhead hsplit⟩)

/-- No heading is missed. -/
theorem Headings.length_le {names : List String} (hall : Headings lines names)
    (h : ∀ l ∈ lines, '\n' ∉ l) : names.length ≤ (markedNames lines).length := by
  induction hall with
  | nil => exact Nat.le_refl _
  | @heading name line lines names hname _ ih =>
    obtain ⟨rest, hrest⟩ := (marker?_joined_iff h).2 (.inl hname)
    rw [markedNames_of_marker? hrest]
    exact Nat.succ_le_succ (ih fun l hl => h l (List.mem_cons_of_mem _ hl))
  | other _ _ ih =>
    rw [markedNames, List.length_append]
    exact Nat.le_trans (ih fun l hl => h l (List.mem_cons_of_mem _ hl)) (Nat.le_add_left _ _)

/-- The markers at the starts of lines are the headings, and the split headings if there are any. -/
theorem headings_markedNames : ∀ {lines : List (List Char)}, (∀ l ∈ lines, '\n' ∉ l) →
    (Headings lines (markedNames lines) ↔ ¬ HasSplitHeading lines)
  | [], _ => iff_of_true .nil not_hasSplitHeading_nil
  | line :: lines, h => by
    have hlines : ∀ l ∈ lines, '\n' ∉ l := fun l hl => h l (List.mem_cons_of_mem _ hl)
    have ih := headings_markedNames hlines
    rw [hasSplitHeading_cons, not_or, not_exists]
    rcases markedNames_cases h with ⟨name, hname, hnames⟩ | ⟨name, hname, hhead, hnames⟩ |
      ⟨hhead, hsplit, hnames⟩
    · rw [hnames, hname.headings_iff, ih, and_iff_right fun other => hname.not_isSplitHeading]
    · -- there is one name more than the headings give
      refine iff_of_false (fun hall => ?_) fun hno => hno.1 name hname
      rw [hnames, headings_cons_of_not hhead] at hall
      exact absurd (hall.length_le hlines) (Nat.not_succ_le_self _)
    · rw [hnames, headings_cons_of_not hhead, ih, and_iff_right hsplit]

end

/-! ## Replies -/

section
variable {text : String} {files : List (String × String)} {cleaned : List Char}

/-- The names of the files are the markers at the starts of lines. -/
theorem parseFiles_markedNames (h : parseFiles text = .ok files) (hclean : IsCleaned text.toList cleaned) :
    files.map (·.1) = markedNames (partsAt '\n' cleaned) := by
  have hlines : ∀ l ∈ partsAt '\n' cleaned, '\n' ∉ l := fun l hl => not_mem_of_mem_partsAt hl
  have hsections := sections_foundAt marker?_finds true cleaned
  rw [(filesOf_names (filesOf_of_parseFiles h)).1, ← map_foundAt_joined hlines, joined,
    intercalate_partsAt, ← hsections, replySections, ← isCleaned_iff.1 hclean, List.map_map]
  rfl

/-- **Headings name the files.** Take a text that is read as files, and the lines that are left of it
without its fences. The names of the files are those of the headings among the lines, in order, if no
hash sign and name stand apart on lines of their own, and in no other case. -/
theorem parseFiles_headings (h : parseFiles text = .ok files) (hclean : IsCleaned text.toList cleaned) :
    Headings (partsAt '\n' cleaned) (files.map (·.1)) ↔ ¬ HasSplitHeading (partsAt '\n' cleaned) := by
  rw [parseFiles_markedNames h hclean]
  exact headings_markedNames fun l hl => not_mem_of_mem_partsAt hl

end

/-- A reply with a fence, with file names within lines, and with comments that are no headings. -/
theorem parseFiles_headings_comments :
    let text := "See # a.tf:\n\x60\x60\x60hcl\n#\t main.tf \n\nx = 1 # b.tf\n#b.tf\n# see c.tf\n"
    let cleaned := "See # a.tf:\n\n#\t main.tf \n\nx = 1 # b.tf\n#b.tf\n# see c.tf\n".toList
    parseFiles text = .ok [("main.tf", "x = 1 # b.tf\n#b.tf\n# see c.tf\n")] ∧
      IsCleaned text.toList cleaned ∧ Headings (partsAt '\n' cleaned) ["main.tf"] := by
  intro text cleaned
  have hread : parseFiles text = .ok [("main.tf", "x = 1 # b.tf\n#b.tf\n# see c.tf\n")] := by
    decide +kernel
  have hclean : IsCleaned text.toList cleaned := isCleaned_iff.2 (by decide +kernel)
  exact ⟨hread, hclean, (parseFiles_headings hread hclean).2 (not_hasSplitHeading (by decide +kernel))⟩

/-- A hash sign and a name on lines of their own start a file, and no line is a heading. -/
theorem parseFiles_split_heading :
    let text := "#\nmain.tf\nx"
    parseFiles text = .ok [("main.tf", "x\n")] ∧ IsCleaned text.toList text.toList ∧
      ∀ l ∈ partsAt '\n' text.toList, ∀ name, ¬ IsHeading name l := by
  intro text
  have hlines : ∀ l ∈ partsAt '\n' text.toList,
      ¬ (l.head? = some '#' ∧ l.tail.all isBlank = false) := by decide +kernel
  exact ⟨by decide +kernel, isCleaned_iff.2 (by decide +kernel),
    fun l hl name hname => hlines l hl hname.nonblank⟩

end CloudScaffold.Assistant
