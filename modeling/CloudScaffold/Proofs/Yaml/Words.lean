import CloudScaffold.Yaml.Stream
/-!
# Words in a stream

A word is a plain scalar without gaps, in front of a colon or at the end of the text (`IsWord`). It may
hold colons and start with a sign: what follows such a character in the word keeps it from being an
indicator (`isGap_peekAt_one`). So a word is read whole, as one scalar (`plainRuns_word`,
`fetchHere_word`).

In a line of a name and a word, that a mapping begins is only known at the colon, and its tokens are
then put in front of the name (`peek_start`). Behind the colon comes the word (`peek_word`), and behind
the word the mapping ends with the text (`peek_end`).
-/
namespace CloudScaffold.Yaml

/-- The indicators that start no plain scalar, whatever follows them. -/
def firmIndicators : List Char := ",[]\x7b\x7d#&*!|>'\"%@\x60".toList

/-- What ends a word: the end of the text, or a colon and a space. -/
inductive EndsWord : List Char → Prop
  | nil : EndsWord []
  | colon (r : List Char) : EndsWord (':' :: ' ' :: r)

/-- A word is a plain scalar without gaps, in front of what follows it in its line. -/
structure IsWord (w r : List Char) : Prop where
  ne : w ≠ []
  gapless : ∀ c ∈ w, isGap c = false
  first : ∀ c ∈ w.head?, c ∉ firmIndicators
  ends : EndsWord r
  /-- At the end of the text, no colon ends a word and no indicator is one. -/
  last : r = [] → w.getLast? ≠ some ':' ∧ w ≠ ['-'] ∧ w ≠ ['?']

theorem isGap_colon : isGap ':' = false := by decide

/-! ## Cursors -/

theorem isBreak_of_isGap {c : Char} (h : isGap c = false) : isBreak c = false := by
  simp only [isGap, isBreakOrEnd, Bool.or_eq_false_iff] at h
  exact h.1.1.1

namespace Cursor

variable {c : Cursor} {ch : Char} {w r : List Char}

theorem next_of_rest (h : c.rest = ch :: r) (hbreak : isBreak ch = false) : c.next.rest = r ∧
    c.next.index = c.index + 1 ∧ c.next.line = c.line ∧
      c.next.column = if ch = orderMark then c.column else c.column + 1 := by
  unfold next
  rw [h]
  simp [hbreak]

theorem advance_of_rest (h : c.rest = w ++ r) (hbreak : ∀ ch ∈ w, isBreak ch = false) :
    (c.advance w.length).rest = r ∧ (c.advance w.length).index = c.index + w.length ∧
      (c.advance w.length).line = c.line := by
  induction w generalizing c with
  | nil => exact ⟨h, rfl, rfl⟩
  | cons ch w ih =>
    obtain ⟨hrest, hindex, hline, -⟩ := next_of_rest h (hbreak ch List.mem_cons_self)
    obtain ⟨hr, hi, hl⟩ := ih hrest fun x hx => hbreak x (List.mem_cons_of_mem ch hx)
    refine ⟨hr, hi.trans ?_, hl.trans hline⟩
    rw [hindex, List.length_cons]
    omega

theorem takeWhile_spaces_of_head (h : c.rest.head? ≠ some ' ') : c.takeWhile (· == ' ') = ([], c) := by
  have hnone : c.rest.takeWhile (· == ' ') = [] := by
    cases hr : c.rest with
    | nil => rfl
    | cons ch r =>
      rw [hr] at h
      rw [List.takeWhile_cons_of_neg]
      simpa using h
  simp [takeWhile, hnone, advance]

theorem skipSpaces_of_head (h : c.rest.head? ≠ some ' ') : c.skipSpaces = c := by
  rw [skipSpaces, skipWhile, takeWhile_spaces_of_head h]

theorem skipSpaces_of_space (h : c.rest = ' ' :: r) (hr : r.head? ≠ some ' ') : c.skipSpaces = c.next := by
  have hnone : r.takeWhile (· == ' ') = [] := by
    cases r with
    | nil => rfl
    | cons ch r =>
      rw [List.takeWhile_cons_of_neg]
      simpa using hr
  simp [skipSpaces, skipWhile, takeWhile, h, hnone, advance]

end Cursor

/-! ## Plain scalars -/

section
variable {w r : List Char}

theorem EndsWord.head (h : EndsWord r) : r.head? ≠ some ' ' ∧ isBreak (r.headD endChar) = false := by
  cases h with
  | nil => exact ⟨by simp, by decide⟩
  | colon r => exact ⟨by simp, (by decide : isBreak ':' = false)⟩

/-- Each character of a word goes on with its scalar. -/
theorem endsPlain_word {c : Char} (hgap : isGap c = false) (hnext : isGap (r.headD endChar) = true → c ≠ ':') :
    endsPlain false c (r.headD endChar) = false := by
  by_cases hc : c = ':'
  · have hr : isGap (r.headD endChar) = false := by
      rw [← Bool.not_eq_true]
      exact fun h => hnext h hc
    simp only [endsPlain, hgap, hr]
    simp
  · simp [endsPlain, hgap, hc]

theorem plainLength_ends (h : EndsWord r) : plainLength false r = 0 := by
  cases h with
  | nil => rfl
  | colon r =>
    have hend : endsPlain false ':' ' ' = true := by decide
    rw [plainLength, List.headD_cons, if_pos hend]

theorem plainLength_word (h : IsWord w r) : plainLength false (w ++ r) = w.length := by
  obtain ⟨-, hgap, -, hends, hlast⟩ := h
  replace hlast : r = [] → w.getLast? ≠ some ':' := fun hr => (hlast hr).1
  induction w with
  | nil => exact plainLength_ends hends
  | cons c w ih =>
    have hend : endsPlain false c ((w ++ r).headD endChar) = false := by
      refine endsPlain_word (hgap c List.mem_cons_self) fun hnext => ?_
      cases w with
      | nil =>
        cases hends with
        | nil => simpa using hlast rfl
        | colon r => simp [isGap_colon] at hnext
      | cons d w =>
        have hd : isGap d = false := hgap d (by simp)
        simp [hd] at hnext
    have hrest : plainLength false (w ++ r) = w.length := by
      refine ih (fun d hd => hgap d (List.mem_cons_of_mem c hd)) fun hr => ?_
      cases w with
      | nil => simp
      | cons d w => simpa using hlast hr
    rw [List.cons_append, plainLength, hend, if_neg Bool.false_ne_true, hrest, List.length_cons]

theorem plainSpaces_ends {c : Cursor} (h : EndsWord c.rest) : plainSpaces c = (none, false, c) := by
  obtain ⟨hspace, hbreak⟩ := h.head
  rw [plainSpaces, Cursor.takeWhile_spaces_of_head hspace]
  have hpeek : isBreak c.peek = false := hbreak
  simp [hpeek]

/-- The first character of a word. -/
theorem IsWord.peek {c : Cursor} (h : IsWord w r) (hc : c.rest = w ++ r) :
    w.head? = some c.peek ∧ isGap c.peek = false ∧ c.peek ∉ firmIndicators := by
  obtain ⟨d, w', rfl⟩ := List.exists_cons_of_ne_nil h.ne
  have hpeek : c.peek = d := by rw [Cursor.peek, hc]; rfl
  rw [hpeek]
  exact ⟨rfl, h.gapless d List.mem_cons_self, h.first d rfl⟩

theorem IsWord.head (h : IsWord w r) : (w ++ r).head? ≠ some ' ' := by
  obtain ⟨d, w', rfl⟩ := List.exists_cons_of_ne_nil h.ne
  rintro hd
  cases hd
  exact absurd (h.gapless ' ' List.mem_cons_self) (by decide)

/-- A word is one run of a plain scalar. -/
theorem plainRuns_word {c : Cursor} {indent : Int} {fuel : Nat} (h : IsWord w r) (hc : c.rest = w ++ r) :
    plainRuns false indent (fuel + 1) [] false c = (w, false, c.advance w.length) := by
  obtain ⟨-, -, hfirm⟩ := h.peek hc
  have hcomment : c.peek ≠ '#' := fun hd => hfirm (hd ▸ by decide)
  have hlength : plainLength false c.rest = w.length := hc ▸ plainLength_word h
  have hpos : w.length ≠ 0 := mt List.length_eq_zero_iff.1 h.ne
  have hahead : c.ahead w.length = w := by rw [Cursor.ahead, hc, List.take_left]
  obtain ⟨hrest, -, -⟩ := Cursor.advance_of_rest hc fun ch hch => isBreak_of_isGap (h.gapless ch hch)
  simp only [plainRuns, hcomment, if_false, hlength, hpos, hahead,
    plainSpaces_ends (hrest ▸ h.ends : EndsWord (c.advance w.length).rest), List.nil_append]

end

namespace Stream

variable {s : Stream} {w r : List Char}

/-- An indicator that may start a word is part of one. -/
theorem isGap_peekAt_one {c : Cursor} (h : IsWord w r) (hc : c.rest = w ++ r)
    (hd : c.peek = '-' ∨ c.peek = '?' ∨ c.peek = ':') : isGap (c.peekAt 1) = false := by
  obtain ⟨d, w', rfl⟩ := List.exists_cons_of_ne_nil h.ne
  have hpeek : c.peek = d := by rw [Cursor.peek, hc]; rfl
  rw [hpeek] at hd
  rw [Cursor.peekAt, hc]
  cases w' with
  | cons e w' => simpa using h.gapless e (by simp)
  | nil =>
    cases h.ends with
    | nil =>
      obtain ⟨hcolon, hminus, hquestion⟩ := h.last rfl
      rcases hd with rfl | rfl | rfl
      · exact absurd rfl hminus
      · exact absurd rfl hquestion
      · exact absurd rfl hcolon
    | colon r => simpa using isGap_colon

/-- A word is read as a plain scalar. -/
theorem fetchHere_word (h : IsWord w r) (hc : s.cursor.rest = w ++ r) (hflow : s.flow = 0)
    (hmark : s.cursor.column = 0 → s.cursor.atMark '-' = false ∧ s.cursor.atMark '.' = false) :
    s.fetchHere = s.fetchPlain := by
  have hisFlow : s.isFlow = false := by simp [isFlow, hflow]
  obtain ⟨-, hgap, hfirm⟩ := h.peek hc
  have hsign (m : Char) (hm : m = '-' ∨ m = '?' ∨ m = ':') :
      (decide (s.cursor.peek = m) && isGap (s.cursor.peekAt 1)) = false := by
    by_cases hpeek : s.cursor.peek = m
    · rw [isGap_peekAt_one h hc (hpeek ▸ hm), Bool.and_false]
    · simp [hpeek]
  have hmarks (m : Char) (hm : m = '-' ∨ m = '.') :
      (decide (s.cursor.column = 0) && s.cursor.atMark m) = false := by
    by_cases hcol : s.cursor.column = 0
    · rcases hm with rfl | rfl
      · rw [(hmark hcol).1, Bool.and_false]
      · rw [(hmark hcol).2, Bool.and_false]
    · simp [hcol]
  have hstart : s.startsPlain s.cursor = true := by
    have hlist : indicators = ['-', '?', ':'] ++ firmIndicators := by decide
    by_cases hd : s.cursor.peek = '-' ∨ s.cursor.peek = '?' ∨ s.cursor.peek = ':'
    · have hnext := isGap_peekAt_one h hc hd
      rcases hd with hd | hd | hd <;> simp [startsPlain, hd, hlist, hnext, hisFlow]
    · have hnone : indicators.contains s.cursor.peek = false := by
        simp only [not_or] at hd
        simp [hlist, hd, hfirm]
      simp only [startsPlain, hnone, hgap]
      rfl
  have hend : s.cursor.peek ≠ endChar := fun hd => by
    rw [hd] at hgap
    exact absurd hgap (by decide)
  have hne (m : Char) (hm : m ∈ firmIndicators) : s.cursor.peek ≠ m := fun hd => hfirm (hd ▸ hm)
  simp only [fetchHere, hend, standsAlone, hisFlow, Bool.false_or, hmarks '-' (.inl rfl),
    hmarks '.' (.inr rfl), hsign '-' (.inl rfl), hsign '?' (.inr (.inl rfl)), hsign ':' (.inr (.inr rfl)),
    hne ',' (by decide), hne '[' (by decide), hne ']' (by decide), hne '{' (by decide),
    hne '}' (by decide), hne '&' (by decide), hne '*' (by decide), hne '!' (by decide),
    hne '|' (by decide), hne '>' (by decide), hne '\'' (by decide), hne '"' (by decide),
    hne '%' (by decide), decide_false, Bool.false_and, Bool.false_eq_true, if_false, hstart, if_true]

theorem fetchPlain_word {s' : Stream} (h : IsWord w r) (hnote : s.noteCandidate = .ok s')
    (hc : s'.cursor.rest = w ++ r) (hflow : s'.flow = 0) : s.fetchPlain =
      .ok (((s'.allowKey false).moveTo (s'.cursor.advance w.length)).push (.scalar (.ofChars w) true)) := by
  have hisFlow : s'.isFlow = false := by simp [isFlow, hflow]
  simp only [fetchPlain, hnote]
  show Except.ok _ = _
  rw [hisFlow, plainRuns_word h hc]

/-- Spaces before a token are skipped. -/
theorem skipToToken_of {c : Cursor} (hfirst : s.cursor.index = 0 → s.cursor.peek ≠ orderMark)
    (hc : s.cursor.skipSpaces = c) (hcomment : c.peek ≠ '#') (hbreak : isBreak c.peek = false) :
    s.skipToToken = s.moveTo c := by
  have hmark : (decide (s.cursor.index = 0) && decide (s.cursor.peek = orderMark)) = false := by
    by_cases h : s.cursor.index = 0 <;> simp [h, hfirst]
  have htake : c.takeBreak = ([], c) := by
    simp only [isBreak, Bool.or_eq_false_iff, beq_eq_false_iff_ne, ne_eq] at hbreak
    simp [Cursor.takeBreak, isBreak, hbreak]
  rw [skipToToken, hmark, if_neg Bool.false_ne_true, skipSpace]
  simp [hc, Cursor.skipComment, hcomment, htake]

theorem skipToToken_word {c : Cursor} (h : IsWord w r)
    (hfirst : s.cursor.index = 0 → s.cursor.peek ≠ orderMark) (hspaces : s.cursor.skipSpaces = c)
    (hc : c.rest = w ++ r) : s.skipToToken = s.moveTo c := by
  obtain ⟨-, hgap, hfirm⟩ := h.peek hc
  exact skipToToken_of hfirst hspaces (fun hd => hfirm (hd ▸ by decide)) (isBreak_of_isGap hgap)

/-! ## The tokens of a line -/

/-- A stream in a mapping of one line, behind the colon. -/
def inLine (c : Cursor) (queue : List Token) (taken : Nat) : Stream :=
  { cursor := c, queue := queue, taken := taken, indent := 0, outer := [-1], keyAllowed := false }

/-- A stream that is read to its end. -/
def ended (c : Cursor) (queue : List Token) (taken : Nat) : Stream :=
  { cursor := c, queue := queue, taken := taken, keyAllowed := false, done := true }

variable {c : Cursor} {t : Token} {ts : List Token} {n : Nat}

theorem peek_inLine : (inLine c (t :: ts) n).peek = .ok (t, inLine c (t :: ts) n) := rfl

theorem peek_ended : (ended c (t :: ts) n).peek = .ok (t, ended c (t :: ts) n) := rfl

theorem drop_inLine : (inLine c (t :: ts) n).drop = inLine c ts (n + 1) := rfl

/-- Behind its spaces a stream is read on at the next token. -/
theorem fetch_inLine {c' : Cursor} (hskip : (inLine c [] n).skipToToken = inLine c' [] n) :
    (inLine c [] n).fetch = (inLine c' [] n).fetchHere := by
  have hcolumn : ¬ ((c'.column : Int) < 0) := by omega
  have hunwind : (inLine c' [] n).unwind (inLine c' [] n).column = inLine c' [] n := by
    simp [unwind, isFlow, inLine, unwindTo, column, hcolumn]
  have hstale : (inLine c' [] n).dropStale = .ok (inLine c' [] n) := rfl
  rw [fetch, hskip, hstale]
  exact congrArg fetchHere hunwind

theorem fill_of_ready (h : s.needsMore = .ok (false, s)) (fuel : Nat) : fill fuel s = .ok s := by
  cases fuel with
  | zero => rfl
  | succ fuel => simp [fill, h, bind, Except.bind]

theorem fill_of_fetch {s' : Stream} (hmore : s.needsMore = .ok (true, s)) (hfetch : s.fetch = .ok s')
    (fuel : Nat) : fill (fuel + 1) s = fill fuel s' := by
  simp [fill, hmore, hfetch, bind, Except.bind]

/-- The next token of a stream that is filled. -/
theorem peek_of_fill {s' : Stream} (h : fill (s.cursor.rest.length + 2) s = .ok s') :
    s.peek = .ok (s'.queue.headD .streamEnd, s') := by
  rw [peek, h]
  rfl

theorem peek_of_fetch {s' : Stream} (hfetch : (inLine c [] n).fetch = .ok s')
    (hs' : s'.needsMore = .ok (false, s')) : (inLine c [] n).peek = .ok (s'.queue.headD .streamEnd, s') := by
  have hmore : (inLine c [] n).needsMore = .ok (true, inLine c [] n) := rfl
  exact peek_of_fill ((fill_of_fetch hmore hfetch _).trans (fill_of_ready hs' _))

theorem peek_word (h : IsWord w []) (hc : c.rest = ' ' :: w) :
    ∃ c' : Cursor, c'.rest = [] ∧ (inLine c [] n).peek =
      .ok (.scalar (.ofChars w) true, inLine c' [.scalar (.ofChars w) true] n) := by
  obtain ⟨hrest, -, -, hcolumn⟩ := Cursor.next_of_rest hc (by decide)
  have hword : c.next.rest = w ++ [] := by rw [hrest, List.append_nil]
  have hspace : w.head? ≠ some ' ' := by simpa using h.head
  have hskip : (inLine c [] n).skipToToken = inLine c.next [] n := by
    refine skipToToken_word h (fun _ => ?_) (Cursor.skipSpaces_of_space hc hspace) hword
    show c.rest.headD endChar ≠ orderMark
    rw [hc]
    exact (by decide : ' ' ≠ orderMark)
  have hhere : (inLine c.next [] n).fetchHere = (inLine c.next [] n).fetchPlain := by
    refine fetchHere_word h hword rfl fun hzero => ?_
    have hcol : c.next.column = 0 := hzero
    rw [hcolumn, if_neg (by decide)] at hcol
    omega
  have hplain := fetchPlain_word (s := inLine c.next [] n) h rfl hword rfl
  obtain ⟨hend, -, -⟩ := Cursor.advance_of_rest hword fun ch hch => isBreak_of_isGap (h.gapless ch hch)
  have hfetch := (fetch_inLine hskip).trans (hhere.trans hplain)
  exact ⟨c.next.advance w.length, hend, peek_of_fetch hfetch rfl⟩

theorem peek_end (hc : c.rest = []) :
    (inLine c [] n).peek = .ok (.blockEnd, ended c [.blockEnd, .streamEnd] n) := by
  have hpeek : c.peek = endChar := by rw [Cursor.peek, hc]; rfl
  have hhead : c.rest.head? ≠ some ' ' := by simp [hc]
  have hskip : (inLine c [] n).skipToToken = inLine c [] n := by
    refine skipToToken_of (fun _ => ?_) (Cursor.skipSpaces_of_head hhead) ?_ ?_
    · show c.peek ≠ orderMark
      rw [hpeek]
      decide
    · rw [hpeek]
      decide
    · rw [hpeek]
      decide
  have hhere : (inLine c [] n).fetchHere = .ok (ended c [.blockEnd, .streamEnd] n) := by
    have hpeek' : (inLine c [] n).cursor.peek = endChar := hpeek
    rw [fetchHere, if_pos hpeek']
    rfl
  have hfetch := (fetch_inLine hskip).trans hhere
  exact peek_of_fetch hfetch rfl

/-- What is known of a stream where a word was read that may be a key. -/
def behindWord (c : Cursor) (w : List Char) : Stream :=
  { cursor := c, queue := [.scalar (.ofChars w) true], keyAllowed := false
    candidates := [(0, { number := 0, required := false, index := 0, line := 0, column := 0 })] }

/-- A word in front of a colon is no mark between documents. -/
theorem atMark_word {m : Char} (h : IsWord w (':' :: r)) (hc : c.rest = w ++ ':' :: r) (hm : m ≠ ':') :
    c.atMark m = false := by
  have hfree (hmmm : c.ahead 3 = [m, m, m]) : isGap (c.peekAt 3) = false := by
    rw [Cursor.ahead, hc] at hmmm
    rw [Cursor.peekAt, hc]
    match w, h.gapless, hmmm with
    | [], _, hmmm => exact absurd (List.cons.inj hmmm).1 hm.symm
    | [_], _, hmmm => exact absurd (List.cons.inj (List.cons.inj hmmm).2).1 hm.symm
    | [_, _], _, hmmm => exact absurd (List.cons.inj (List.cons.inj (List.cons.inj hmmm).2).2).1 hm.symm
    | [_, _, _], _, _ => exact isGap_colon
    | _ :: _ :: _ :: d :: _, hgap, _ => exact hgap d (by simp)
  by_cases hahead : c.ahead 3 = [m, m, m]
  · rw [Cursor.atMark, hfree hahead, Bool.and_false]
  · simp [Cursor.atMark, hahead]

theorem fetch_start (h : IsWord w (':' :: r)) (hw : w.head? ≠ some orderMark) :
    ∃ c : Cursor, c.rest = ':' :: r ∧ c.index = w.length ∧ c.line = 0 ∧
      (ofChars (w ++ ':' :: r)).fetch = .ok (behindWord c w) := by
  have hskip : (ofChars (w ++ ':' :: r)).skipToToken = ofChars (w ++ ':' :: r) := by
    refine skipToToken_word h (fun _ hmark => hw ?_) (Cursor.skipSpaces_of_head h.head) rfl
    exact hmark ▸ (h.peek rfl).1
  have hhere : (ofChars (w ++ ':' :: r)).fetchHere = (ofChars (w ++ ':' :: r)).fetchPlain :=
    fetchHere_word h rfl rfl fun _ => ⟨atMark_word h rfl (by decide), atMark_word h rfl (by decide)⟩
  have hplain := fetchPlain_word (s := ofChars (w ++ ':' :: r)) h rfl rfl rfl
  obtain ⟨hrest, hindex, hline⟩ := Cursor.advance_of_rest (c := { rest := w ++ ':' :: r }) rfl
    fun ch hch => isBreak_of_isGap (h.gapless ch hch)
  refine ⟨_, hrest, hindex.trans (Nat.zero_add _), hline, ?_⟩
  rw [fetch, hskip]
  exact hhere.trans hplain

theorem fetch_colon (hc : c.rest = ':' :: ' ' :: r) (hline : c.line = 0) (hreach : c.index ≤ keyReach)
    (hpos : c.index ≠ 0) :
    ∃ c' : Cursor, c'.rest = ' ' :: r ∧ (behindWord c w).fetch =
      .ok (inLine c' [.blockMappingStart, .key, .scalar (.ofChars w) true, .value] 0) := by
  have hpeek : c.peek = ':' := by rw [Cursor.peek, hc]; rfl
  have hhead : c.rest.head? ≠ some ' ' := by simp [hc]
  have hskip : (behindWord c w).skipToToken = behindWord c w := by
    refine skipToToken_of (fun hzero => absurd hzero hpos) (Cursor.skipSpaces_of_head hhead) ?_ ?_
    · rw [hpeek]
      decide
    · rw [hpeek]
      decide
  have hstale : (behindWord c w).dropStale = .ok (behindWord c w) := by
    have hfresh : ¬ keyReach < c.index := by omega
    simp [dropStale, behindWord, isStale, hline, hfresh]
  have hhere : (behindWord c w).fetchHere =
      .ok (inLine c.next [.blockMappingStart, .key, .scalar (.ofChars w) true, .value] 0) := by
    have hcolon : (behindWord c w).cursor.peek = ':' := hpeek
    have hmark (m : Char) (hm : m ≠ ':') : (behindWord c w).cursor.atMark m = false := by
      have hahead : c.ahead 3 ≠ [m, m, m] := by
        rw [Cursor.ahead, hc]
        exact fun h => hm (List.cons.inj h).1.symm
      show c.atMark m = false
      simp [Cursor.atMark, hahead]
    have halone : (behindWord c w).standsAlone = true := by
      have hgap : isGap (c.peekAt 1) = true := by
        rw [Cursor.peekAt, hc]
        exact (by decide : isGap ' ' = true)
      show (_ || isGap (c.peekAt 1)) = true
      rw [hgap, Bool.or_true]
    have hvalue : (behindWord c w).fetchHere = (behindWord c w).fetchValue := by
      simp [fetchHere, hcolon, hmark, halone, endChar]
    exact hvalue.trans rfl
  obtain ⟨hrest, -⟩ := Cursor.next_of_rest hc (by decide)
  refine ⟨c.next, hrest, ?_⟩
  rw [fetch, hskip, hstale]
  exact hhere

theorem peek_start (h : IsWord w (':' :: ' ' :: r)) (hw : w.head? ≠ some orderMark)
    (hreach : w.length ≤ keyReach) : ∃ c : Cursor, c.rest = ' ' :: r ∧
      (ofChars (w ++ ':' :: ' ' :: r)).peek = .ok (.blockMappingStart,
        inLine c [.blockMappingStart, .key, .scalar (.ofChars w) true, .value] 0) := by
  obtain ⟨c₁, hrest₁, hindex, hline, hword⟩ := fetch_start h hw
  have hpos : c₁.index ≠ 0 := hindex ▸ mt List.length_eq_zero_iff.1 h.ne
  obtain ⟨c, hrest, hcolon⟩ := fetch_colon (w := w) hrest₁ hline (hindex ▸ hreach) hpos
  have hopen : (behindWord c₁ w).needsMore = .ok (true, behindWord c₁ w) := by
    have hfresh : ¬ keyReach < c₁.index := by omega
    simp [needsMore, dropStale, isOpen, behindWord, isStale, hline, hfresh, bind, Except.bind]
  have hempty : (ofChars (w ++ ':' :: ' ' :: r)).needsMore = .ok (true, ofChars (w ++ ':' :: ' ' :: r)) := rfl
  have hfill : fill ((w ++ ':' :: ' ' :: r).length + 2) (ofChars (w ++ ':' :: ' ' :: r)) =
      .ok (inLine c [.blockMappingStart, .key, .scalar (.ofChars w) true, .value] 0) := by
    rw [fill_of_fetch hempty hword, fill_of_fetch hopen hcolon]
    exact fill_of_ready rfl _
  exact ⟨c, hrest, peek_of_fill hfill⟩

end Stream

end CloudScaffold.Yaml
