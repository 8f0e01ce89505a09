import CloudScaffold.Proofs.Assistant.Cuts
/-!
# Markers and fences as matches

What a marker and a fence are, without the way in which they are found: a hash sign or backquotes at the
start of a line, a name or a word, and blanks up to the end of a line, which may go over several lines
(`IsLineEnd`). `marker?` finds the matches of markers and nothing else (`marker?_finds`), and `fence?`
those of fences (`fence?_finds`).
-/
namespace CloudScaffold.Assistant

open Text

theorem not_mem_of_forall {p : Char → Bool} {xs : List Char} {c : Char} (h : ∀ d ∈ xs, p d = true)
    (hc : p c = false) : c ∉ xs := by
  intro hmem
  rw [h c hmem] at hc
  cases hc

/-! ## Ends of lines -/

/-- Whether a line ends in front of a text: nothing follows, or a line break. -/
def EndsLine (rest : List Char) : Prop := ∀ c ∈ rest.head?, c = '\n'

/-- Blanks up to the end of a line, as many as there are: no more of those that follow end a line too. -/
structure IsLineEnd (bs rest : List Char) : Prop where
  blank : ∀ c ∈ bs, isBlank c = true
  ends : EndsLine rest
  most : ∀ more rest', rest = more ++ rest' → (∀ c ∈ more, isBlank c = true) → EndsLine rest' →
    more = []

section
variable {cs bs rest t : List Char}

theorem lastBreak_eq_none_iff : lastBreak cs = none ↔ '\n' ∉ cs := by
  induction cs with
  | nil => simp [lastBreak]
  | cons c cs ih =>
    rw [lastBreak]
    cases hl : lastBreak cs with
    | some t =>
      have hmem : '\n' ∈ cs := Decidable.byContradiction fun hno => by
        rw [ih.2 hno] at hl
        cases hl
      simp [hmem]
    | none => by_cases hc : c = '\n' <;> simp [hc, ih.1 hl, eq_comm]

/-- The last line break is one, and none follows it. -/
theorem lastBreak_eq_some : ∀ {cs : List Char}, lastBreak cs = some t →
    ∃ front back, cs = front ++ t ∧ t = '\n' :: back ∧ '\n' ∉ back
  | c :: cs, h => by
    rw [lastBreak] at h
    cases hl : lastBreak cs with
    | some t' =>
      rw [hl] at h
      cases h
      obtain ⟨front, back, hcs, ht, hback⟩ := lastBreak_eq_some hl
      exact ⟨c :: front, back, by rw [hcs, List.cons_append], ht, hback⟩
    | none =>
      simp only [hl] at h
      split at h
      · next hc =>
        cases h
        exact ⟨[], cs, rfl, by rw [hc], lastBreak_eq_none_iff.1 hl⟩
      · cases h

/-- The blanks up to the last line break in front of what is no blank are as many as there are. -/
theorem isLineEnd_of_lastBreak {back r : List Char} (hbs : ∀ c ∈ bs, isBlank c = true)
    (hback : '\n' ∉ back) (hr : ∃ c ∈ r.head?, isBlank c = false) :
    IsLineEnd bs ('\n' :: (back ++ r)) where
  blank := hbs
  ends := by simp [EndsLine]
  most more rest' h hmore hends := by
    obtain ⟨c, hc, hblank⟩ := hr
    have hne : c ≠ '\n' := by
      rintro rfl
      revert hblank
      decide
    cases more with
    | nil => rfl
    | cons m more =>
      obtain ⟨-, h⟩ := List.cons.inj h
      rcases List.append_eq_append_iff.1 h with ⟨y, rfl, rfl⟩ | ⟨y, rfl, rfl⟩
      · cases y with
        | nil => exact absurd (hends c hc) hne
        | cons d y =>
          obtain rfl : d = c := by simpa using hc
          exact absurd (by simp) (not_mem_of_forall hmore hblank)
      · cases y with
        | nil => exact absurd (hends c hc) hne
        | cons d y =>
          obtain rfl : d = '\n' := hends d rfl
          exact absurd (by simp) hback

theorem isLineEnd_of_afterBlanks (h : afterBlanks cs = some rest) :
    ∃ bs, cs = bs ++ rest ∧ IsLineEnd bs rest := by
  have hsplit := List.takeWhile_append_dropWhile (p := isBlank) (l := cs)
  have hblank : ∀ c ∈ cs.takeWhile isBlank, isBlank c = true := List.all_eq_true.1 List.all_takeWhile
  unfold afterBlanks at h
  dsimp only at h
  split at h
  · next hnil =>
    cases h
    rw [List.isEmpty_iff.1 hnil, List.append_nil] at hsplit
    exact ⟨cs, (List.append_nil cs).symm, hsplit ▸ hblank, nofun,
      fun more rest' h _ _ => (List.append_eq_nil_iff.1 h.symm).1⟩
  · next hne =>
    obtain ⟨t, ht, rfl⟩ := Option.map_eq_some_iff.1 h
    obtain ⟨bs, back, hbs, rfl, hback⟩ := lastBreak_eq_some ht
    refine ⟨bs, by rw [← List.append_assoc, ← hbs, hsplit], ?_⟩
    refine isLineEnd_of_lastBreak (fun c hc => hblank c (hbs ▸ List.mem_append_left _ hc)) hback ?_
    obtain ⟨c, r, hr⟩ := List.exists_cons_of_ne_nil fun hnil => hne (List.isEmpty_iff.2 hnil)
    exact ⟨c, by rw [hr]; rfl, head_dropWhile cs c (by rw [hr]; rfl)⟩

/-- There is one way only to go to the end of a line. -/
theorem IsLineEnd.unique {bs' rest' : List Char} (h : IsLineEnd bs rest) (h' : IsLineEnd bs' rest')
    (heq : bs ++ rest = bs' ++ rest') : rest = rest' := by
  rcases List.append_eq_append_iff.1 heq with ⟨y, rfl, rfl⟩ | ⟨y, rfl, rfl⟩
  · rw [h.most y rest' rfl (fun c hc => h'.blank c (List.mem_append_right _ hc)) h'.ends,
      List.nil_append]
  · rw [h'.most y rest rfl (fun c hc => h.blank c (List.mem_append_right _ hc)) h.ends,
      List.nil_append]

/-- Where blanks lead to the end of a line, the end of a line is found. -/
theorem afterBlanks_ne_none (hbs : ∀ c ∈ bs, isBlank c = true) (hends : EndsLine rest) :
    afterBlanks (bs ++ rest) ≠ none := by
  intro hnone
  unfold afterBlanks at hnone
  dsimp only at hnone
  split at hnone
  · cases hnone
  · next hne =>
    rw [Option.map_eq_none_iff, lastBreak_eq_none_iff] at hnone
    rw [List.takeWhile_append_of_pos hbs] at hnone
    rw [List.dropWhile_append_of_pos hbs] at hne
    cases rest with
    | nil => exact hne rfl
    | cons c rest =>
      obtain rfl : c = '\n' := hends c rfl
      have hbreak : isBlank '\n' = true := by decide
      rw [List.takeWhile_cons_of_pos hbreak] at hnone
      exact hnone (by simp)

theorem IsLineEnd.afterBlanks (h : IsLineEnd bs rest) : afterBlanks (bs ++ rest) = some rest := by
  obtain ⟨rest', hrest'⟩ := Option.ne_none_iff_exists'.1 (afterBlanks_ne_none h.blank h.ends)
  obtain ⟨bs', heq, h'⟩ := isLineEnd_of_afterBlanks hrest'
  rw [hrest', h.unique h' heq]

/-- What `afterBlanks` goes over is the blanks up to the end of a line. -/
theorem afterBlanks_eq_some_iff :
    afterBlanks cs = some rest ↔ ∃ bs, cs = bs ++ rest ∧ IsLineEnd bs rest := by
  refine ⟨isLineEnd_of_afterBlanks, ?_⟩
  rintro ⟨bs, rfl, h⟩
  exact h.afterBlanks

end

/-! ## Markers and fences -/

/-- The matches of file markers: a hash sign, blanks, a name, and blanks to the end of the line. -/
inductive IsMarker : List Char → List Char → List Char → Prop
  | intro {front stem back rest : List Char} (hfront : front ≠ [])
      (hblank : ∀ c ∈ front, isBlank c = true) (hstem : stem ≠ [])
      (hname : ∀ c ∈ stem, isNameChar c = true) (hend : IsLineEnd back rest) :
      IsMarker (stem ++ ['.', 't', 'f']) ('#' :: (front ++ (stem ++ '.' :: 't' :: 'f' :: back))) rest

/-- The matches of code fences: three backquotes, a word, and blanks to the end of the line. -/
inductive IsFence : Unit → List Char → List Char → Prop
  | intro {word back rest : List Char} (hword : ∀ c ∈ word, isNameChar c = true)
      (hend : IsLineEnd back rest) :
      IsFence () ('\x60' :: '\x60' :: '\x60' :: (word ++ back)) rest

theorem EndsLine.head {y rest : List Char} (h : EndsLine rest) :
    ∀ c ∈ (y ++ rest).head?, c ∈ y ∨ c = '\n' := by
  intro c hc
  cases y with
  | nil => exact .inr (h c hc)
  | cons d y =>
    obtain rfl : d = c := by simpa using hc
    exact .inl List.mem_cons_self

theorem EndsLine.head_ne {c : Char} {y rest : List Char} (h : EndsLine rest) (hy : c ∉ y)
    (hc : c ≠ '\n') : c ∉ (y ++ rest).head? :=
  fun hmem => (h.head c hmem).elim hy hc

section
variable {cs a mark rest : List Char}

theorem marker?_of_head (h : '#' ∉ cs.head?) : marker? cs = none := by
  unfold marker?
  split
  · exact absurd rfl h
  · rfl

theorem fence?_of_head (h : '\x60' ∉ cs.head?) : fence? cs = none := by
  unfold fence?
  split
  · exact absurd rfl h
  · rfl

theorem isMarker_of_marker? (h : marker? cs = some (a, rest)) :
    ∃ mark, cs = mark ++ rest ∧ IsMarker a mark rest := by
  unfold marker? at h
  split at h
  · next r =>
    dsimp only at h
    split at h
    · cases h
    · next hcond =>
      rw [Bool.or_eq_true, not_or, decide_eq_true_eq, List.isEmpty_iff] at hcond
      split at h
      · next t ht =>
        obtain ⟨rest', hrest, heq⟩ := Option.map_eq_some_iff.1 h
        obtain ⟨rfl, rfl⟩ := Prod.mk.inj heq
        obtain ⟨back, rfl, hend⟩ := afterBlanks_eq_some_iff.1 hrest
        have hr := List.takeWhile_append_dropWhile (p := isBlank) (l := r)
        have hname := List.takeWhile_append_dropWhile (p := isNameChar) (l := r.dropWhile isBlank)
        have hfront : r.takeWhile isBlank ≠ [] := fun hnil => by
          rw [hnil, List.nil_append] at hr
          exact hcond.1 (congrArg List.length hr)
        have hblank : ∀ c ∈ r.takeWhile isBlank, isBlank c = true :=
          List.all_eq_true.1 List.all_takeWhile
        have hword : ∀ c ∈ (r.dropWhile isBlank).takeWhile isNameChar, isNameChar c = true :=
          List.all_eq_true.1 List.all_takeWhile
        refine ⟨_, ?_, .intro hfront hblank hcond.2 hword hend⟩
        rw [ht] at hname
        rw [← hname] at hr
        simpa using hr.symm
      · cases h
  · cases h

theorem IsMarker.marker? (h : IsMarker a mark rest) : marker? (mark ++ rest) = some (a, rest) := by
  cases h with
  | @intro front stem back rest hfront hblank hstem hname hend =>
    have hstop : isNameChar '.' = false := by decide +kernel
    have hhead : ∀ c ∈ (stem ++ '.' :: 't' :: 'f' :: (back ++ rest)).head?, isBlank c = false := by
      obtain ⟨c, stem, rfl⟩ := List.exists_cons_of_ne_nil hstem
      rintro _ ⟨⟩
      exact isBlank_of_isNameChar (hname c List.mem_cons_self)
    have hdrop : (front ++ (stem ++ '.' :: 't' :: 'f' :: (back ++ rest))).dropWhile isBlank =
        stem ++ '.' :: 't' :: 'f' :: (back ++ rest) := by
      rw [List.dropWhile_append_of_pos hblank, dropWhile_of_head hhead]
    have htake : (stem ++ '.' :: 't' :: 'f' :: (back ++ rest)).takeWhile isNameChar = stem := by
      rw [List.takeWhile_append_of_pos hname, List.takeWhile_cons_of_neg (by simp [hstop]),
        List.append_nil]
    have hrest : (stem ++ '.' :: 't' :: 'f' :: (back ++ rest)).dropWhile isNameChar =
        '.' :: 't' :: 'f' :: (back ++ rest) := by
      rw [List.dropWhile_append_of_pos hname, List.dropWhile_cons_of_neg (by simp [hstop])]
    have htext : '#' :: (front ++ (stem ++ '.' :: 't' :: 'f' :: back)) ++ rest =
        '#' :: (front ++ (stem ++ '.' :: 't' :: 'f' :: (back ++ rest))) := by simp
    rw [htext, marker?_hash, hdrop, htake, hrest, if_neg (by simp [hfront, hstem])]
    simp only [hend.afterBlanks, Option.map_some]

theorem isFence_of_fence? {u : Unit} (h : fence? cs = some (u, rest)) :
    ∃ mark, cs = mark ++ rest ∧ IsFence u mark rest := by
  unfold fence? at h
  split at h
  · next r =>
    obtain ⟨rest', hrest, heq⟩ := Option.map_eq_some_iff.1 h
    obtain ⟨rfl, rfl⟩ := Prod.mk.inj heq
    obtain ⟨back, hback, hend⟩ := afterBlanks_eq_some_iff.1 hrest
    have hr := List.takeWhile_append_dropWhile (p := isNameChar) (l := r)
    have hword : ∀ c ∈ r.takeWhile isNameChar, isNameChar c = true :=
      List.all_eq_true.1 List.all_takeWhile
    refine ⟨_, ?_, .intro hword hend⟩
    rw [hback] at hr
    simpa using hr.symm
  · cases h

theorem IsFence.fence? {u : Unit} (h : IsFence u mark rest) :
    fence? (mark ++ rest) = some (u, rest) := by
  cases h with
  | @intro word back rest hword hend =>
    have hhead : ∀ c ∈ (back ++ rest).head?, isNameChar c = false := by
      intro c hc
      rw [← Bool.not_eq_true]
      intro hname
      rcases hend.ends.head c hc with hmem | rfl
      · exact not_mem_of_forall hend.blank (isBlank_of_isNameChar hname) hmem
      · revert hname
        decide +kernel
    have hdrop : (word ++ (back ++ rest)).dropWhile isNameChar = back ++ rest := by
      rw [List.dropWhile_append_of_pos hword, dropWhile_of_head hhead]
    have htext : '\x60' :: '\x60' :: '\x60' :: (word ++ back) ++ rest =
        '\x60' :: '\x60' :: '\x60' :: (word ++ (back ++ rest)) := by simp
    rw [htext, Assistant.fence?, hdrop, hend.afterBlanks]
    rfl

end

/-- A match of a marker has but one hash sign. -/
theorem marker?_finds : Finds marker? IsMarker where
  iff := ⟨isMarker_of_marker?, fun ⟨_, hcs, h⟩ => hcs ▸ h.marker?⟩
  nonempty h := by
    cases h
    exact List.cons_ne_nil _ _
  apart {a x y rest} h hline := by
    obtain ⟨c, x, rfl⟩ := List.exists_cons_of_ne_nil (ne_nil_of_startsLine hline)
    generalize hmark : c :: x ++ y = mark at h
    cases h with
    | @intro front stem back rest hfront hblank hstem hname hend =>
      have hblanks : isBlank '#' = false := by decide
      have hnames : isNameChar '#' = false := by decide +kernel
      have hbehind : x ++ y = front ++ (stem ++ '.' :: 't' :: 'f' :: back) := (List.cons.inj hmark).2
      have hhash : '#' ∉ x ++ y := by
        rw [hbehind]
        simp [not_mem_of_forall hblank hblanks, not_mem_of_forall hname hnames,
          not_mem_of_forall hend.blank hblanks]
      exact marker?_of_head (hend.ends.head_ne (fun hmem => hhash (List.mem_append_right x hmem))
        (by decide))

/-- A match of a fence has no backquotes but the three at its start. -/
theorem fence?_finds : Finds fence? IsFence where
  iff := ⟨isFence_of_fence?, fun ⟨_, hcs, h⟩ => hcs ▸ h.fence?⟩
  nonempty h := by
    cases h
    exact List.cons_ne_nil _ _
  apart {u x y rest} h hline := by
    generalize hmark : x ++ y = mark at h
    cases h with
    | @intro word back rest hword hend =>
      have hblanks : isBlank '\x60' = false := by decide
      have hnames : isNameChar '\x60' = false := by decide +kernel
      have hquote : '\x60' ∉ y := by
        intro hmem
        -- a line cannot start behind one of the three backquotes
        rcases x with _ | ⟨c, _ | ⟨d, _ | ⟨e, x⟩⟩⟩
        · cases hline
        · obtain ⟨rfl, -⟩ := List.cons.inj hmark
          cases hline
        · obtain ⟨-, hmark⟩ := List.cons.inj hmark
          obtain ⟨rfl, -⟩ := List.cons.inj hmark
          cases hline
        · have hxy : x ++ y = word ++ back := by simpa using congrArg (List.drop 3) hmark
          rcases List.mem_append.1 (hxy ▸ List.mem_append_right x hmem) with hmem | hmem
          · exact not_mem_of_forall hword hnames hmem
          · exact not_mem_of_forall hend.blank hblanks hmem
      exact fence?_of_head (hend.ends.head_ne hquote (by decide))

end CloudScaffold.Assistant
