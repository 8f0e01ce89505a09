import CloudScaffold.Proofs.Assistant.Matches
/-!
# The format of replies

A reply in the format that is asked for has a marker line in front of each file. Neither pattern reaches
from one part of such a reply into the next, since each part ends where the next line starts and the next
line starts with a hash sign (`fence?_isLocal`, `marker?_isLocal`). So nothing is dropped as a fence, the
markers that are found are those that were written, and what stands between them are the files.

Main statement: `parseFiles_replyText`.
-/
namespace CloudScaffold.Assistant

open Text

/-! ## The format -/

/-- A name that a marker may give to a file: word characters or hyphens, and `.tf` behind them. -/
def IsFileName (name : String) : Prop :=
  ∃ stem : List Char, stem ≠ [] ∧ (∀ c ∈ stem, isNameChar c = true) ∧
    name.toList = stem ++ ['.', 't', 'f']

/-- A text in which neither a marker nor a fence is found. -/
structure Unmarked (text : String) : Prop where
  marker : Absent marker? text.toList
  fence : Absent fence? text.toList

/-- What a file may hold: more than blanks, none of them at its ends, and no marker or fence. -/
structure IsBody (body : String) : Prop extends Unmarked body where
  nonblank : allBlank body = false
  trimmed : trim body = body

/-- Files with a marker line in front of each. -/
def filesText (files : List (String × String)) : String :=
  String.join (files.map fun f => "# " ++ f.1 ++ "\n" ++ f.2 ++ "\n")

/-- A reply: files after a preamble. -/
def replyText (preamble : String) (files : List (String × String)) : String :=
  preamble ++ filesText files

/-! ## Patterns with what follows -/

section
variable {p : Char → Bool} {xs ys : List Char}

theorem dropWhile_append_of_stop (h : ∀ c ∈ ys.head?, p c = false) :
    (xs ++ ys).dropWhile p = xs.dropWhile p ++ ys := by
  rw [List.dropWhile_append]
  split
  · next hnil => rw [List.isEmpty_iff.1 hnil, dropWhile_of_head h, List.nil_append]
  · rfl

theorem takeWhile_append_of_stop (h : ∀ c ∈ ys.head?, p c = false) :
    (xs ++ ys).takeWhile p = xs.takeWhile p := by
  have hys : ys.takeWhile p = [] := by
    cases ys with
    | nil => rfl
    | cons c ys => rw [List.takeWhile_cons_of_neg (by simp [h c rfl])]
  rw [List.takeWhile_append]
  split
  · next hlen => rw [hys, List.append_nil, List.takeWhile_prefix p |>.eq_of_length hlen]
  · rfl

end

/-- What may follow a part of a reply: a line break or a hash sign, and no name behind the blanks. -/
structure Apart (ys : List Char) : Prop where
  head : ∀ c ∈ ys.head?, c = '\n' ∨ c = '#'
  name : ∀ c ∈ (ys.dropWhile isBlank).head?, isNameChar c = false

/-- A pattern that is not found in a part because of what follows it. -/
structure IsLocal {α : Type} (find : Finder α) : Prop where
  keeps : ∀ {xs ys}, xs ≠ [] → Apart ys → find xs = none → find (xs ++ ys) = none
  lineBreak : ∀ r, find ('\n' :: r) = none

section
variable {xs ys : List Char}

theorem Apart.not_name (h : Apart ys) : ∀ c ∈ ys.head?, isNameChar c = false := by
  intro c hc
  rcases h.head c hc with rfl | rfl <;> decide +kernel

theorem Apart.ne (h : Apart ys) {c : Char} {r : List Char} (hc : c ≠ '\n' ∧ c ≠ '#') : ys ≠ c :: r := by
  rintro rfl
  rcases h.head c rfl with rfl | rfl
  · exact hc.1 rfl
  · exact hc.2 rfl

/-- Blanks that do not end a line do not end one because of what follows them. -/
theorem afterBlanks_append (h : afterBlanks xs = none) : afterBlanks (xs ++ ys) = none := by
  unfold afterBlanks at h ⊢
  dsimp only at h ⊢
  split at h
  · cases h
  · next hne =>
    have hdrop : (xs ++ ys).dropWhile isBlank = xs.dropWhile isBlank ++ ys := by
      rw [List.dropWhile_append, if_neg hne]
    have htake : (xs ++ ys).takeWhile isBlank = xs.takeWhile isBlank := by
      rw [List.takeWhile_append, if_neg]
      intro hlen
      have hxs := List.takeWhile_append_dropWhile (p := isBlank) (l := xs)
      rw [(List.takeWhile_prefix isBlank).eq_of_length hlen] at hxs
      exact hne (by simpa using hxs)
    rw [Option.map_eq_none_iff] at h
    rw [hdrop, htake, h, if_neg (by simpa using fun hnil => absurd hnil (by simpa using hne))]
    rfl

theorem fence?_isLocal : IsLocal fence? where
  keeps := by
    intro xs ys _ hys h
    unfold fence?
    split
    · next r hxs =>
      rcases xs with _ | ⟨a, _ | ⟨b, _ | ⟨c, xs⟩⟩⟩
      · exact absurd hxs (hys.ne (by decide))
      · exact absurd (List.cons.inj hxs).2 (hys.ne (by decide))
      · exact absurd (List.cons.inj (List.cons.inj hxs).2).2 (hys.ne (by decide))
      · simp only [List.cons_append, List.cons.injEq] at hxs
        obtain ⟨rfl, rfl, rfl, rfl⟩ := hxs
        rw [fence?, Option.map_eq_none_iff] at h
        rw [dropWhile_append_of_stop hys.not_name, afterBlanks_append h]
        rfl
    · rfl
  lineBreak _ := rfl

theorem marker?_isLocal : IsLocal marker? where
  keeps := by
    intro xs ys hne hys h
    obtain ⟨c, r, rfl⟩ := List.exists_cons_of_ne_nil hne
    rw [List.cons_append]
    by_cases hc : c = '#'
    · subst hc
      rw [marker?_hash] at h ⊢
      by_cases hblank : (r.dropWhile isBlank).isEmpty = true
      · -- nothing but blanks behind the hash sign, and no name behind the blanks that follow
        have hstem : (ys.dropWhile isBlank).takeWhile isNameChar = [] := by
          cases hd : ys.dropWhile isBlank with
          | nil => rfl
          | cons c cs => rw [List.takeWhile_cons_of_neg (by simp [hys.name c (by rw [hd]; rfl)])]
        rw [List.dropWhile_append, if_pos hblank, hstem]
        simp
      · rw [List.dropWhile_append, if_neg hblank, takeWhile_append_of_stop hys.not_name,
          dropWhile_append_of_stop hys.not_name]
        simp only [List.length_append, Nat.add_right_cancel_iff]
        generalize r.dropWhile isBlank = name at h ⊢
        split at h
        · next hcond => rw [if_pos hcond]
        · next hcond =>
          rw [if_neg hcond]
          generalize name.dropWhile isNameChar = t at h ⊢
          split
          · next t' ht =>
            rcases t with _ | ⟨a, _ | ⟨b, _ | ⟨c, t⟩⟩⟩
            · exact absurd ht (hys.ne (by decide))
            · exact absurd (List.cons.inj ht).2 (hys.ne (by decide))
            · exact absurd (List.cons.inj (List.cons.inj ht).2).2 (hys.ne (by decide))
            · simp only [List.cons_append, List.cons.injEq] at ht
              obtain ⟨rfl, rfl, rfl, rfl⟩ := ht
              rw [afterBlanks_append (Option.map_eq_none_iff.1 h)]
              rfl
          · rfl
    · unfold marker?
      split
      · next heq => exact absurd (List.cons.inj heq).1 hc
      · rfl
  lineBreak _ := rfl

/-! ## Parts of a reply -/

/-- A part that ends its last line stays as it is, whatever follows. -/
theorem pieces_part {α : Type} {find : Finder α} (hlocal : IsLocal find) (hxs : Absent find xs)
    (hys : Apart ys) : pieces find true (xs ++ ys) =
      xs.map .plain ++ pieces find (startsLine true xs) ys :=
  pieces_append ys xs true fun pre post hpost hne hl => hlocal.keeps hne hys (hxs pre post hpost hl)

/-- The text of a file and the line break behind it stay as they are. -/
theorem pieces_body {α : Type} {find : Finder α} (hlocal : IsLocal find) (hxs : Absent find xs)
    (hys : Apart ('\n' :: ys)) : pieces find true (xs ++ '\n' :: ys) =
      (xs ++ ['\n']).map .plain ++ pieces find true ys := by
  rw [pieces_part hlocal hxs hys, pieces_plain fun _ => hlocal.lineBreak ys, List.map_append,
    List.append_assoc]
  rfl

/-- In the midst of a line nothing is found. -/
theorem pieces_line {α : Type} {find : Finder α} (ys : List Char) : ∀ {line : List Char},
    '\n' ∉ line → pieces find false (line ++ '\n' :: ys) =
      (line ++ ['\n']).map .plain ++ pieces find true ys
  | [], _ => pieces_midline
  | c :: line, h => by
    have hc : (c == '\n') = false := beq_eq_false_iff_ne.2 fun e => h (e ▸ List.mem_cons_self)
    rw [List.cons_append, pieces_midline, hc, pieces_line ys fun hmem => h (List.mem_cons_of_mem c hmem)]
    rfl

end

/-! ## Names and bodies -/

section
variable {name body : String}

/-- A character that is none of names stands in a file name only if it does in the ending. -/
theorem IsFileName.not_mem (h : IsFileName name) {c : Char} (hc : isNameChar c = false)
    (hsuffix : c ∉ ['.', 't', 'f']) : c ∉ name.toList := by
  obtain ⟨stem, _, hstem, hname⟩ := h
  rw [hname, List.mem_append, not_or]
  exact ⟨not_mem_of_forall hstem hc, hsuffix⟩

theorem IsFileName.no_lineBreak (h : IsFileName name) : '\n' ∉ name.toList :=
  h.not_mem (by decide +kernel) (by decide)

/-- A marker line is found as one, up to its end. -/
theorem marker?_line (h : IsFileName name) {r : List Char} (hr : r ≠ [])
    (hhead : ∀ c ∈ r.head?, isBlank c = false) :
    marker? ('#' :: ' ' :: (name.toList ++ '\n' :: r)) = some (name.toList, '\n' :: r) := by
  obtain ⟨stem, hne, hstem, hname⟩ := h
  obtain ⟨c, cs, rfl⟩ := List.exists_cons_of_ne_nil hr
  have hend : IsLineEnd [] ('\n' :: c :: cs) :=
    isLineEnd_of_lastBreak (List.forall_mem_nil _) List.not_mem_nil ⟨c, rfl, hhead c rfl⟩
  have hspace : ∀ c ∈ [' '], isBlank c = true := List.forall_mem_singleton.2 (by decide)
  have hmark : IsMarker name.toList ('#' :: ([' '] ++ (stem ++ ['.', 't', 'f']))) ('\n' :: c :: cs) := by
    rw [hname]
    exact .intro (List.cons_ne_nil _ _) hspace hne hstem hend
  have htext : '#' :: ' ' :: (name.toList ++ '\n' :: c :: cs) =
      '#' :: ([' '] ++ (stem ++ ['.', 't', 'f'])) ++ '\n' :: c :: cs := by rw [hname]; simp
  rw [htext, hmark.marker?]

theorem IsBody.chars_trimmed (h : IsBody body) : trimChars body.toList = body.toList := by
  rw [← String.toList_ofList (l := trimChars body.toList), ← trim, h.trimmed]

theorem IsBody.ne_nil (h : IsBody body) : body.toList ≠ [] := by
  intro hnil
  have hblank := h.nonblank
  rw [allBlank, hnil] at hblank
  cases hblank

theorem IsBody.head (h : IsBody body) (r : List Char) :
    ∀ c ∈ (body.toList ++ r).head?, isBlank c = false := by
  obtain ⟨c, cs, hcs⟩ := List.exists_cons_of_ne_nil h.ne_nil
  have hhead := head_trimChars body.toList
  rw [h.chars_trimmed, hcs] at hhead
  rwa [hcs]

theorem IsBody.getLast (h : IsBody body) : ∀ c ∈ body.toList.getLast?, isBlank c = false := by
  rw [← h.chars_trimmed]
  exact getLast_trimEnd _

/-- The line breaks around a body are trimmed. -/
theorem IsBody.trimChars_lines (h : IsBody body) :
    trimChars ('\n' :: (body.toList ++ ['\n'])) = body.toList := by
  have hbreak : isBlank '\n' = true := by decide
  have hlast : ∀ c ∈ body.toList.reverse.head?, isBlank c = false := by simpa using h.getLast
  rw [trimChars, trimStart, List.dropWhile_cons_of_pos hbreak, dropWhile_of_head (h.head _), trimEnd,
    List.reverse_append, List.reverse_singleton, List.singleton_append,
    List.dropWhile_cons_of_pos hbreak, dropWhile_of_head hlast, List.reverse_reverse]

end

/-! ## Files -/

section
variable {files : List (String × String)}

theorem toList_filesText_cons (f : String × String) (files : List (String × String)) :
    (filesText (f :: files)).toList =
      '#' :: ' ' :: (f.1.toList ++ '\n' :: (f.2.toList ++ '\n' :: (filesText files).toList)) := by
  simp [filesText, String.join_cons]

theorem apart_filesText (files : List (String × String)) : Apart (filesText files).toList := by
  cases files with
  | nil => exact ⟨nofun, nofun⟩
  | cons f files =>
    have hhash : isBlank '#' = false := by decide
    rw [toList_filesText_cons]
    refine ⟨by simp, ?_⟩
    rw [List.dropWhile_cons_of_neg (by simp [hhash])]
    rintro _ ⟨⟩
    decide +kernel

theorem apart_lineBreak_filesText (files : List (String × String)) :
    Apart ('\n' :: (filesText files).toList) := by
  refine ⟨by simp, ?_⟩
  rw [List.dropWhile_cons_of_pos (by decide)]
  exact (apart_filesText files).name

/-- Nothing in files is a fence. -/
theorem pieces_fence_filesText (hnames : ∀ f ∈ files, IsFileName f.1)
    (hbodies : ∀ f ∈ files, IsBody f.2) :
    pieces fence? true (filesText files).toList = (filesText files).toList.map .plain := by
  induction files with
  | nil => rw [show (filesText []).toList = [] from rfl, pieces]; rfl
  | cons f files ih =>
    rw [List.forall_mem_cons] at hnames hbodies
    have hline : '\n' ∉ ' ' :: f.1.toList := by simpa using hnames.1.no_lineBreak
    have hhash : pieces fence? true ('#' :: ' ' :: (f.1.toList ++ '\n' :: (f.2.toList ++
          '\n' :: (filesText files).toList))) =
        .plain '#' :: pieces fence? false ((' ' :: f.1.toList) ++ '\n' :: (f.2.toList ++
          '\n' :: (filesText files).toList)) := pieces_plain fun _ => rfl
    rw [toList_filesText_cons, hhash, pieces_line _ hline,
      pieces_body fence?_isLocal hbodies.1.fence (apart_lineBreak_filesText files),
      ih hnames.2 hbodies.2]
    simp

/-- The markers in files are those that were written. -/
theorem pieces_marker_filesText (hnames : ∀ f ∈ files, IsFileName f.1)
    (hbodies : ∀ f ∈ files, IsBody f.2) :
    pieces marker? true (filesText files).toList = files.flatMap fun f =>
      .mark f.1.toList :: ('\n' :: (f.2.toList ++ ['\n'])).map .plain := by
  induction files with
  | nil => rw [show (filesText []).toList = [] from rfl, pieces]; rfl
  | cons f files ih =>
    rw [List.forall_mem_cons] at hnames hbodies
    have hbody : f.2.toList ++ '\n' :: (filesText files).toList ≠ [] := by simp
    have hplain : pieces marker? false ('\n' :: (f.2.toList ++ '\n' :: (filesText files).toList)) =
        .plain '\n' :: pieces marker? true (f.2.toList ++ '\n' :: (filesText files).toList) :=
      pieces_midline
    rw [toList_filesText_cons, pieces_mark (marker?_line hnames.1 hbody (hbodies.1.head _)) (by simp; omega),
      hplain, pieces_body marker?_isLocal hbodies.1.marker (apart_lineBreak_filesText files),
      ih hnames.2 hbodies.2]
    simp

/-- The sections of files: each name with the lines up to the next marker. -/
theorem sections_files (files : List (String × String)) :
    sections (files.flatMap fun f =>
      .mark f.1.toList :: ('\n' :: (f.2.toList ++ ['\n'])).map .plain) =
      ([], files.map fun f => (f.1.toList, '\n' :: (f.2.toList ++ ['\n']))) := by
  induction files with
  | nil => rfl
  | cons f files ih =>
    rw [List.flatMap_cons, List.cons_append, sections, sections_plain, ih]
    simp

/-- Sections with bodies and different names are read as files. -/
theorem filesOf_sections (hbodies : ∀ f ∈ files, IsBody f.2) (hnodup : (files.map (·.1)).Nodup) :
    ∀ seen : List String, (∀ f ∈ files, f.1 ∉ seen) →
      filesOf seen (files.map fun f => (f.1.toList, '\n' :: (f.2.toList ++ ['\n']))) =
        .ok (files.map fun f => (f.1, f.2 ++ "\n")) := by
  induction files with
  | nil => exact fun _ _ => rfl
  | cons f files ih =>
    intro seen hseen
    rw [List.forall_mem_cons] at hbodies hseen
    rw [List.map_cons, List.nodup_cons] at hnodup
    have hrest := ih hbodies.2 hnodup.2 (f.1 :: seen) fun g hg => by
      rw [List.mem_cons, not_or]
      exact ⟨fun he => hnodup.1 (he ▸ List.mem_map_of_mem hg), hseen.2 g hg⟩
    have hbody : f.2.toList.isEmpty = false := by simpa using hbodies.1.ne_nil
    have htext : String.ofList (f.2.toList ++ ['\n']) = f.2 ++ "\n" := by
      rw [← String.toList_inj]
      simp
    simp only [List.map_cons, filesOf, String.ofList_toList, hbodies.1.trimChars_lines, hbody,
      htext, List.contains_iff_mem, hseen.1, if_false, Bool.false_eq_true, hrest]
    rfl

end

/-- **Replies in the format are read as they were written.** Take files with different names and with
bodies in which no marker and no fence is found, at least one of them, and a preamble in which none is
found either and which ends its last line. The reply is read as these files, in their order, each with
a line break at its end. -/
theorem parseFiles_replyText {preamble : String} {files : List (String × String)} (hne : files ≠ [])
    (hnames : ∀ f ∈ files, IsFileName f.1) (hnodup : (files.map (·.1)).Nodup)
    (hbodies : ∀ f ∈ files, IsBody f.2) (hpreamble : Unmarked preamble)
    (hline : preamble = "" ∨ preamble.toList.getLast? = some '\n') :
    parseFiles (replyText preamble files) = .ok (files.map fun f => (f.1, f.2 ++ "\n")) := by
  have hstart : startsLine true preamble.toList = true := by
    rcases hline with rfl | hlast
    · rfl
    · simp [startsLine, hlast]
  have htext : (replyText preamble files).toList = preamble.toList ++ (filesText files).toList :=
    String.toList_append
  have hfences : withoutFences (replyText preamble files).toList = (replyText preamble files).toList := by
    rw [withoutFences, htext, pieces_part fence?_isLocal hpreamble.fence (apart_filesText files), hstart,
      pieces_fence_filesText hnames hbodies, ← List.map_append, plainPart_plain]
  have hsections : replySections (replyText preamble files) =
      files.map fun f => (f.1.toList, '\n' :: (f.2.toList ++ ['\n'])) := by
    rw [replySections, hfences, htext, pieces_part marker?_isLocal hpreamble.marker
      (apart_filesText files), hstart, pieces_marker_filesText hnames hbodies, sections_plain,
      sections_files]
  have hread := filesOf_sections hbodies hnodup [] fun _ _ => List.not_mem_nil
  obtain ⟨f, rest, rfl⟩ := List.exists_cons_of_ne_nil hne
  rw [parseFiles, hsections, List.map_cons]
  rw [List.map_cons] at hread
  exact hread

/-- Bodies that end in a hash sign, start with a hyphen, and tell of markers and fences in a line. -/
def trickyFiles : List (String × String) :=
  [("main.tf", "# see main.tf, or:\n\n  # main.tf\nlocals \x7b\x7d\n#"), ("out-puts.tf", "- a ```hcl"),
   ("_9.tf", "#.tf\n````")]

theorem parseFiles_replyText_trickyFiles :
    parseFiles (replyText "Here it is: # main.tf\n#\n \n" trickyFiles) =
      .ok (trickyFiles.map fun f => (f.1, f.2 ++ "\n")) := by
  have hname (stem : String) (h : stem.toList ≠ [] ∧ stem.toList.all isNameChar = true) :
      IsFileName (stem ++ ".tf") := ⟨stem.toList, h.1, List.all_eq_true.1 h.2, String.toList_append⟩
  refine parseFiles_replyText (by decide) ?_ (by decide) ?_ ⟨by decide +kernel, by decide +kernel⟩
    (.inr rfl)
  · simp only [trickyFiles, List.forall_mem_cons]
    exact ⟨hname "main" (by decide +kernel), hname "out-puts" (by decide +kernel),
      hname "_9" (by decide +kernel), nofun⟩
  · simp only [trickyFiles, List.forall_mem_cons]
    refine ⟨?_, ?_, ?_, nofun⟩ <;>
      exact ⟨⟨by decide +kernel, by decide +kernel⟩, by decide +kernel, by decide +kernel⟩

end CloudScaffold.Assistant
