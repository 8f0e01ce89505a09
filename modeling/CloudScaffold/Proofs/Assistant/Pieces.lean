import CloudScaffold.Assistant.Reply
/-!
# Texts in pieces

A pattern is looked for where lines start, so what `pieces` does to a text depends on what stands
behind it. A text with what follows it stays as it is if the pattern is found at none of its lines with
what follows in view (`pieces_append`), and every mark is of something that the pattern found
(`found_of_mem_pieces`).
-/
namespace CloudScaffold.Assistant

open Text

/-- Whether a line starts behind a text; `lineStart` says whether one starts in front of it. -/
def startsLine (lineStart : Bool) (cs : List Char) : Bool :=
  match cs.getLast? with
  | none => lineStart
  | some c => c == '\n'

section
variable {α : Type} {find : Finder α} {lineStart : Bool} {c : Char} {r : List Char} {a : α}

/-- Whether a pattern is found at no start of a line of a text. -/
def Absent (find : Finder α) (cs : List Char) : Prop :=
  ∀ pre post, cs = pre ++ post → startsLine true pre = true → find post = none

theorem startsLine_cons (lineStart : Bool) (c : Char) (cs : List Char) :
    startsLine lineStart (c :: cs) = startsLine (c == '\n') cs := by
  cases cs with
  | nil => rfl
  | cons d cs => simp [startsLine, List.getLast?_cons]

/-- Looks for a pattern at every start of a line. -/
def isAbsent (find : Finder α) : Bool → List Char → Bool
  | lineStart, [] => !lineStart || (find []).isNone
  | lineStart, c :: r => (!lineStart || (find (c :: r)).isNone) && isAbsent find (c == '\n') r

theorem isAbsent_iff : ∀ {lineStart : Bool} {cs : List Char}, isAbsent find lineStart cs = true ↔
    ∀ pre post, cs = pre ++ post → startsLine lineStart pre = true → find post = none
  | lineStart, [] => by
    have hnil : ∀ pre post : List Char, [] = pre ++ post ↔ pre = [] ∧ post = [] := by simp
    cases lineStart <;> simp [isAbsent, startsLine, hnil]
  | lineStart, c :: r => by
    rw [isAbsent, Bool.and_eq_true, isAbsent_iff]
    constructor
    · rintro ⟨hhere, hlater⟩ pre post hcs hl
      cases pre with
      | nil =>
        have hl : lineStart = true := hl
        rw [List.nil_append] at hcs
        simpa [hl, hcs] using hhere
      | cons d pre =>
        rw [List.cons_append, List.cons.injEq] at hcs
        obtain ⟨rfl, hr⟩ := hcs
        rw [startsLine_cons] at hl
        exact hlater pre post hr hl
    · intro h
      refine ⟨?_, fun pre post hr hl => h (c :: pre) post (by rw [hr, List.cons_append]) ?_⟩
      · cases lineStart with
        | false => rfl
        | true => simpa using h [] (c :: r) rfl rfl
      · rwa [startsLine_cons]

instance (find : Finder α) (cs : List Char) : Decidable (Absent find cs) :=
  decidable_of_iff (isAbsent find true cs = true) isAbsent_iff

/-! ## Pieces -/

theorem pieces_plain (h : lineStart = true → find (c :: r) = none) :
    pieces find lineStart (c :: r) = .plain c :: pieces find (c == '\n') r := by
  rw [pieces]
  cases lineStart with
  | false => rfl
  | true =>
    have hnone := h rfl
    split
    · next hsome =>
      rw [if_pos rfl, hnone] at hsome
      cases hsome
    · rfl

/-- Nothing is looked for but where a line starts. -/
theorem pieces_midline : pieces find false (c :: r) = .plain c :: pieces find (c == '\n') r :=
  pieces_plain nofun

theorem pieces_mark {rest : List Char} (h : find (c :: r) = some (a, rest))
    (hlen : rest.length ≤ r.length) :
    pieces find true (c :: r) = .mark a :: pieces find false rest := by
  rw [pieces]
  split
  · next hsome =>
    rw [if_pos rfl, h] at hsome
    cases hsome
    exact if_pos (Nat.lt_succ_of_le hlen)
  · next hnone =>
    rw [if_pos rfl, h] at hnone
    cases hnone

/-- A text stays as it is if no line of it, with what follows the text, starts with the pattern. -/
theorem pieces_append (ys : List Char) : ∀ (xs : List Char) (lineStart : Bool),
    (∀ pre post, xs = pre ++ post → post ≠ [] → startsLine lineStart pre = true →
      find (post ++ ys) = none) →
    pieces find lineStart (xs ++ ys) = xs.map .plain ++ pieces find (startsLine lineStart xs) ys
  | [], _, _ => rfl
  | x :: xs, lineStart, h => by
    have hhead : lineStart = true → find (x :: (xs ++ ys)) = none := fun hl =>
      h [] (x :: xs) rfl (List.cons_ne_nil x xs) hl
    have htail := pieces_append ys xs (x == '\n') fun pre post hxs hpost hl =>
      h (x :: pre) post (by rw [hxs, List.cons_append]) hpost (by rwa [startsLine_cons])
    rw [List.cons_append, pieces_plain hhead, htail, startsLine_cons, List.map_cons, List.cons_append]

theorem plainPart_plain (cs : List Char) : plainPart (cs.map (Piece.plain (α := α))) = cs := by
  induction cs with
  | nil => rfl
  | cons c cs ih => exact congrArg (c :: ·) ih

/-- Plain characters in front belong to the text before the first mark. -/
theorem sections_plain (cs : List Char) (ps : List (Piece α)) :
    sections (cs.map .plain ++ ps) = (cs ++ (sections ps).1, (sections ps).2) := by
  induction cs with
  | nil => rfl
  | cons c cs ih =>
    rw [List.map_cons, List.cons_append, sections, ih]
    rfl

end

/-! ## Markers -/

/-- The characters of names, as ranges. -/
def nameChars : CharSet :=
  [(0x2d, 0x2d), (0x30, 0x39), (0x41, 0x5a), (0x5f, 0x5f), (0x61, 0x7a)] ++ alnumBeyondAscii

theorem has_nameChars {c : Char} (h : isNameChar c = true) : nameChars.has c = true := by
  have hle (a b : Char) : a ≤ b ↔ a.toNat ≤ b.toNat := UInt32.le_iff_toNat_le
  simp only [isNameChar, isWord, isAsciiLetter, isAsciiLower, isAsciiUpper, isAsciiDigit,
    Bool.or_eq_true, Bool.and_eq_true, decide_eq_true_eq, beq_iff_eq, hle, Char.reduceToNat] at h
  rw [nameChars, CharSet.has, List.any_append, Bool.or_eq_true]
  rcases h with ((((h | h) | h) | rfl) | h) | rfl
  · left; simp; omega
  · left; simp; omega
  · left; simp; omega
  · left; rfl
  · right; exact h
  · left; rfl

/-- No character of a name is blank. -/
theorem isBlank_of_isNameChar {c : Char} (h : isNameChar c = true) : isBlank c = false := by
  have apart : ∀ b ∈ blanks, ∀ n ∈ nameChars, b.2 < n.1 ∨ n.2 < b.1 := by decide +kernel
  obtain ⟨n, hn, hlo, hhi⟩ := (CharSet.has_iff _ _).1 (has_nameChars h)
  rw [← Bool.not_eq_true, isBlank, CharSet.has_iff]
  rintro ⟨b, hb, h1, h2⟩
  have := apart b hb n hn
  omega

theorem marker?_hash (r : List Char) : marker? ('#' :: r) =
    if (r.dropWhile isBlank).length = r.length ||
        ((r.dropWhile isBlank).takeWhile isNameChar).isEmpty then none
    else match (r.dropWhile isBlank).dropWhile isNameChar with
      | '.' :: 't' :: 'f' :: t => (afterBlanks t).map fun rest =>
        ((r.dropWhile isBlank).takeWhile isNameChar ++ ['.', 't', 'f'], rest)
      | _ => none :=
  rfl

end CloudScaffold.Assistant
