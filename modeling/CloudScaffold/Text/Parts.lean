/-!
# Parts of a text

`partsAt` divides a text at every mark, and `cutAt?` at the first one. Nothing is lost: the parts
with the marks between them are the text again (`intercalate_partsAt`, `cutAt?_eq_some_iff`), and parts
without marks are the parts of what they make (`partsAt_intercalate`).
-/
namespace CloudScaffold.Text

variable {α : Type} [DecidableEq α]

/-- The parts of a text between marks; a text without a mark is one part. -/
def partsAt (mark : α) : List α → List (List α)
  | [] => [[]]
  | c :: r =>
    if c = mark then [] :: partsAt mark r
    else match partsAt mark r with
      | p :: ps => (c :: p) :: ps
      | [] => [[c]]

/-- The text before the first mark, and the text behind it. -/
def cutAt? (mark : α) : List α → Option (List α × List α)
  | [] => none
  | c :: r => if c = mark then some ([], r) else (cutAt? mark r).map fun p => (c :: p.1, p.2)

theorem partsAt_ne_nil (mark : α) (cs : List α) : partsAt mark cs ≠ [] := by
  cases cs with
  | nil => simp [partsAt]
  | cons c r =>
    simp only [partsAt]
    split
    · simp
    · split <;> simp

theorem intercalate_partsAt (mark : α) (cs : List α) :
    [mark].intercalate (partsAt mark cs) = cs := by
  induction cs with
  | nil => simp [partsAt]
  | cons c r ih =>
    obtain ⟨p, ps, hp⟩ := List.exists_cons_of_ne_nil (partsAt_ne_nil mark r)
    rw [hp] at ih
    by_cases h : c = mark
    · subst h
      simp [partsAt, hp, List.intercalate_cons_cons, ih]
    · cases ps <;> simp_all [partsAt, List.intercalate_cons_cons]

/-- A part holds no mark. -/
theorem not_mem_of_mem_partsAt {mark : α} {cs p : List α} (h : p ∈ partsAt mark cs) :
    mark ∉ p := by
  induction cs generalizing p with
  | nil => simp_all [partsAt]
  | cons c r ih =>
    obtain ⟨q, qs, hq⟩ := List.exists_cons_of_ne_nil (partsAt_ne_nil mark r)
    by_cases hc : c = mark
    · subst hc
      simp only [partsAt, if_true, List.mem_cons] at h
      rcases h with rfl | h
      · simp
      · exact ih h
    · simp only [partsAt, hc, if_false, hq, List.mem_cons] at h
      rcases h with rfl | h
      · have := ih (p := q) (by simp [hq])
        simp [this, Ne.symm hc]
      · exact ih (by simp [hq, h])

theorem partsAt_of_not_mem {mark : α} {p : List α} (h : mark ∉ p) : partsAt mark p = [p] := by
  induction p with
  | nil => rfl
  | cons c r ih =>
    simp only [List.mem_cons, not_or] at h
    simp [partsAt, Ne.symm h.1, ih h.2]

/-- A part ends at the first mark behind it. -/
theorem partsAt_append_mark {mark : α} {p : List α} (r : List α) (h : mark ∉ p) :
    partsAt mark (p ++ mark :: r) = p :: partsAt mark r := by
  induction p with
  | nil => simp [partsAt]
  | cons c p ih =>
    simp only [List.mem_cons, not_or] at h
    simp [partsAt, Ne.symm h.1, ih h.2]

/-- What is no mark goes to the first part. -/
theorem partsAt_cons_of_ne {mark c : α} {cs p : List α} {ps : List (List α)} (hc : c ≠ mark)
    (h : partsAt mark cs = p :: ps) : partsAt mark (c :: cs) = (c :: p) :: ps := by
  rw [partsAt, if_neg hc, h]

/-- Parts with marks between them are parts of the text they make. -/
theorem partsAt_intercalate {mark : α} : ∀ {ps : List (List α)}, ps ≠ [] → (∀ p ∈ ps, mark ∉ p) →
    partsAt mark ([mark].intercalate ps) = ps
  | [p], _, h => by
    rw [List.intercalate_singleton, partsAt_of_not_mem (h p List.mem_cons_self)]
  | p :: q :: ps, _, h => by
    have hrest := partsAt_intercalate (List.cons_ne_nil q ps) fun p hp => h p (List.mem_cons_of_mem _ hp)
    rw [List.intercalate_cons_cons, List.append_assoc, List.singleton_append,
      partsAt_append_mark _ (h p List.mem_cons_self), hrest]

theorem cutAt?_eq_some_iff {mark : α} {cs a b : List α} :
    cutAt? mark cs = some (a, b) ↔ mark ∉ a ∧ cs = a ++ mark :: b := by
  induction cs generalizing a with
  | nil => simp [cutAt?]
  | cons c r ih =>
    by_cases hc : c = mark
    · subst hc
      cases a with
      | nil => simp [cutAt?]
      | cons d a => simp [cutAt?]; rintro h _ rfl; exact absurd rfl h
    · cases a with
      | nil => simp [cutAt?, hc]
      | cons d a =>
        simp only [cutAt?, hc, if_false, Option.map_eq_some_iff, Prod.mk.injEq, List.cons.injEq,
          Prod.exists, List.mem_cons, not_or, List.cons_append]
        constructor
        · rintro ⟨a', b', h, ⟨rfl, rfl⟩, rfl⟩
          obtain ⟨hm, rfl⟩ := ih.1 h
          exact ⟨⟨Ne.symm hc, hm⟩, rfl, rfl⟩
        · rintro ⟨⟨_, hm⟩, rfl, rfl⟩
          exact ⟨a, b, ih.2 ⟨hm, rfl⟩, ⟨rfl, rfl⟩, rfl⟩

end CloudScaffold.Text
