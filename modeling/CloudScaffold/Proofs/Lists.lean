import Mathlib.Data.List.Forall2
import Mathlib.Data.List.Pairwise
/-!
# Lists and results

Laws that several proofs share: what a computation with faults did if it gave a result, how lists that
are related item by item are cut, and what comes before what in a list that is put into buckets by a key
(`pair_sublist_buckets`). That `a` comes before `b` is said by `[a, b].Sublist xs`.
-/
namespace CloudScaffold

section
variable {ε α β γ : Type}

theorem bind_eq_ok {x : Except ε α} {f : α → Except ε β} {b : β} :
    x >>= f = .ok b ↔ ∃ a, x = .ok a ∧ f a = .ok b := by
  cases x <;> simp [bind, Except.bind]

/-- Where a computation failed: in its first part, or behind it. -/
theorem bind_eq_error {x : Except ε α} {f : α → Except ε β} {e : ε} :
    x >>= f = .error e ↔ x = .error e ∨ ∃ a, x = .ok a ∧ f a = .error e := by
  cases x <;> simp [bind, Except.bind]

theorem map_eq_ok {x : Except ε α} {f : α → β} {b : β} :
    x.map f = .ok b ↔ ∃ a, x = .ok a ∧ f a = b := by
  cases x <;> simp [Except.map]

theorem mapError_eq_ok {ε' : Type} {x : Except ε α} {f : ε → ε'} {a : α} :
    x.mapError f = .ok a ↔ x = .ok a := by
  cases x <;> simp [Except.mapError]

/-- Computations that go on in ways that a function does not tell apart. -/
theorem map_bind_congr {x : Except ε α} {f g : α → Except ε β} {e : β → γ}
    (h : ∀ a, (f a).map e = (g a).map e) : (x >>= f).map e = (x >>= g).map e := by
  cases x with
  | error _ => rfl
  | ok a => exact h a

/-- Computations that end alike: both with one fault, or with results that are related. -/
inductive Related (R : α → β → Prop) : Except ε α → Except ε β → Prop
  | error (e : ε) : Related R (.error e) (.error e)
  | ok {a : α} {b : β} (h : R a b) : Related R (.ok a) (.ok b)

theorem Related.bind {α' β' : Type} {R : α → β → Prop} {S : α' → β' → Prop} {x : Except ε α}
    {y : Except ε β} {f : α → Except ε α'} {g : β → Except ε β'} (h : Related R x y)
    (hfg : ∀ {a b}, R a b → Related S (f a) (g b)) : Related S (x >>= f) (y >>= g) := by
  cases h with
  | error e => exact .error e
  | ok hab => exact hfg hab

/-- What is read off related results in the same way. -/
theorem Related.map_eq {R : α → β → Prop} {x : Except ε α} {y : Except ε β} {f : α → γ} {g : β → γ}
    (h : Related R x y) (hfg : ∀ {a b}, R a b → f a = g b) : x.map f = y.map g := by
  cases h with
  | error e => rfl
  | ok hab => exact congrArg Except.ok (hfg hab)

/-- A list of computations that all gave a result. -/
theorem forall₂_of_mapM {f : α → Except ε β} : ∀ {xs : List α} {ys : List β}, xs.mapM f = .ok ys →
    List.Forall₂ (fun x y => f x = .ok y) xs ys
  | [], _, h => by cases h; exact .nil
  | x :: xs, _, h => by
    simp only [List.mapM_cons, bind_eq_ok] at h
    obtain ⟨y, hy, ys, hys, h⟩ := h
    cases h
    exact .cons hy (forall₂_of_mapM hys)

/-- A function that undoes a part of each computation undoes it for the list. -/
theorem mapM_erase {f : α → Except ε β} {g : α → Except ε γ} {e : β → γ}
    (h : ∀ a, (f a).map e = g a) (xs : List α) : (xs.mapM f).map (·.map e) = xs.mapM g := by
  induction xs with
  | nil => rfl
  | cons x xs ih =>
    rw [List.mapM_cons, List.mapM_cons, ← h, ← ih]
    cases f x with
    | error e => rfl
    | ok b => cases xs.mapM f <;> rfl

/-- Lists with a separator between them: the separator stands in front of each list but the first. -/
theorem intercalate_cons (sep xs : List α) (xss : List (List α)) :
    sep.intercalate (xs :: xss) = xs ++ xss.flatMap (sep ++ ·) := by
  induction xss generalizing xs with
  | nil => simp
  | cons ys xss ih =>
    rw [List.intercalate_cons_cons, ih ys, List.flatMap_cons, List.append_assoc, List.append_assoc]

theorem mem_intercalate {sep xs : List α} {xss : List (List α)} {x : α} (hxs : xs ∈ xss) (hx : x ∈ xs) :
    x ∈ sep.intercalate xss := by
  cases xss with
  | nil => cases hxs
  | cons ys xss =>
    rw [intercalate_cons, List.mem_append]
    rcases List.mem_cons.1 hxs with rfl | hxs
    · exact .inl hx
    · exact .inr (List.mem_flatMap.2 ⟨xs, hxs, List.mem_append_right sep hx⟩)

theorem map_intercalate (f : α → β) (sep : List α) (xss : List (List α)) :
    (sep.intercalate xss).map f = (sep.map f).intercalate (xss.map (·.map f)) := by
  cases xss with
  | nil => rfl
  | cons xs xss =>
    rw [List.map_cons, intercalate_cons, intercalate_cons, List.map_append, List.map_flatMap,
      List.flatMap_map]
    simp only [List.map_append]

/-- A separator without an image leaves the images of the lists. -/
theorem flatMap_intercalate {f : α → List β} {a : α} (ha : f a = []) (xss : List (List α)) :
    ([a].intercalate xss).flatMap f = xss.flatMap (·.flatMap f) := by
  cases xss with
  | nil => rfl
  | cons xs xss =>
    rw [intercalate_cons, List.flatMap_append, List.flatMap_assoc, List.flatMap_cons]
    simp only [List.flatMap_append, List.flatMap_cons, List.flatMap_nil, ha, List.nil_append]

/-- Lists that agree agree up to where a property ends and behind it. -/
theorem append_cancel_of_span {p : α → Bool} {xs ys as bs : List α} (hx : ∀ x ∈ xs, p x = true)
    (hy : ∀ y ∈ ys, p y = true) (ha : ∀ a ∈ as.head?, p a = false) (hb : ∀ b ∈ bs.head?, p b = false)
    (h : xs ++ as = ys ++ bs) : xs = ys ∧ as = bs := by
  have stops {zs : List α} (hz : ∀ z ∈ zs.head?, p z = false) : zs.takeWhile p = [] := by
    cases zs with
    | nil => rfl
    | cons z zs => rw [List.takeWhile_cons_of_neg (by simp [hz z rfl])]
  have htake := congrArg (List.takeWhile p) h
  rw [List.takeWhile_append_of_pos hx, List.takeWhile_append_of_pos hy, stops ha, stops hb,
    List.append_nil, List.append_nil] at htake
  subst htake
  exact ⟨rfl, List.append_cancel_left h⟩

/-- Related lists with one separator between them. -/
theorem forall₂_intercalate {R : α → α → Prop} {sep : List α} (hsep : List.Forall₂ R sep sep)
    {xss yss : List (List α)} (h : List.Forall₂ (List.Forall₂ R) xss yss) :
    List.Forall₂ R (sep.intercalate xss) (sep.intercalate yss) := by
  cases h with
  | nil => exact .nil
  | cons hxy h =>
    rw [intercalate_cons, intercalate_cons]
    exact List.rel_append hxy (List.rel_flatMap h fun _ _ hab => List.rel_append hsep hab)

/-- A filter on keys hides the entries of some keys. -/
theorem lookup_filter [BEq α] [LawfulBEq α] (p : α → Bool) (k : α) (es : List (α × β)) :
    (es.filter fun e => p e.1).lookup k = if p k then es.lookup k else none := by
  induction es with
  | nil => simp
  | cons e es ih =>
    obtain ⟨k', b⟩ := e
    rw [List.filter_cons]
    by_cases hk : k = k'
    · subst hk
      by_cases hp : p k = true
      · simp [hp]
      · simp [hp, ih]
    · have hb : (k == k') = false := by simpa using hk
      by_cases hp : p k' = true
      · simp [hp, List.lookup_cons, hb, ih]
      · simp [hp, List.lookup_cons, hb, ih]

theorem lookup_of_filter [BEq α] [LawfulBEq α] {p : α → Bool} {k : α} {b : β} {es : List (α × β)}
    (h : (es.filter fun e => p e.1).lookup k = some b) : es.lookup k = some b := by
  rw [lookup_filter] at h
  split at h
  · exact h
  · cases h

theorem mem_of_lookup [BEq α] [LawfulBEq α] {k : α} {b : β} {es : List (α × β)}
    (h : es.lookup k = some b) : (k, b) ∈ es := by
  obtain ⟨pre, post, rfl, _⟩ := List.lookup_eq_some_iff.1 h
  simp

/-- Two elements of a list whose elements are related in pairs. -/
theorem cases_of_pairwise {R : α → α → Prop} {xs : List α} (h : xs.Pairwise R) {x y : α}
    (hx : x ∈ xs) (hy : y ∈ xs) : x = y ∨ R x y ∨ R y x := by
  have hsymm : Std.Symm fun a b => R a b ∨ R b a := ⟨fun _ _ => Or.symm⟩
  have hboth : xs.Pairwise fun a b => R a b ∨ R b a := h.imp Or.inl
  by_cases hxy : x = y
  · exact .inl hxy
  · exact .inr (hboth.forall hx hy hxy)

/-- What stands before an element of a related list. -/
theorem forall₂_split {R : α → β → Prop} {as : List α} {pre post : List β} {b : β}
    (h : List.Forall₂ R as (pre ++ b :: post)) :
    ∃ bs a cs, as = bs ++ a :: cs ∧ List.Forall₂ R bs pre ∧ R a b := by
  have hpre := List.forall₂_take_append as pre (b :: post) h
  obtain ⟨a, cs, hab, _, hdrop⟩ :=
    List.forall₂_cons_right_iff.1 (List.forall₂_drop_append as pre (b :: post) h)
  exact ⟨as.take pre.length, a, cs, by rw [← hdrop, List.take_append_drop], hpre, hab⟩

/-- Each item of a list has a partner in a list that is related to it item by item. -/
theorem exists_mem_of_forall₂ {R : α → β → Prop} {as : List α} {bs : List β} {b : β}
    (h : List.Forall₂ R as bs) (hb : b ∈ bs) : ∃ a ∈ as, R a b := by
  obtain ⟨pre, post, rfl⟩ := List.append_of_mem hb
  obtain ⟨_, a, _, rfl, -, hab⟩ := forall₂_split h
  exact ⟨a, by simp, hab⟩

/-! ## Made from some of the elements -/

section
variable {κ : Type} {g : α → Option β} {name : α → κ} {tag : β → κ}

theorem map_filterMap_sublist (hg : ∀ a, ∀ b ∈ g a, tag b = name a) (xs : List α) :
    ((xs.filterMap g).map tag).Sublist (xs.map name) := by
  induction xs with
  | nil => exact .slnil
  | cons a xs ih =>
    rw [List.filterMap_cons, List.map_cons]
    cases hb : g a with
    | none => exact ih.cons (name a)
    | some b =>
      rw [List.map_cons, hg a b hb]
      exact ih.cons_cons (name a)

theorem mem_map_filterMap (hg : ∀ a, ∀ b ∈ g a, tag b = name a) {xs : List α} {k : κ} :
    k ∈ (xs.filterMap g).map tag ↔ ∃ a ∈ xs, name a = k ∧ (g a).isSome = true := by
  simp only [List.mem_map, List.mem_filterMap]
  constructor
  · rintro ⟨b, ⟨a, ha, hb⟩, rfl⟩
    exact ⟨a, ha, (hg a b hb).symm, by rw [hb]; rfl⟩
  · rintro ⟨a, ha, rfl, hsome⟩
    obtain ⟨b, hb⟩ := Option.isSome_iff_exists.1 hsome
    exact ⟨b, ⟨a, ha, hb⟩, hg a b hb⟩

/-- Under a name that occurs once stands what was made of its bearer. -/
theorem filter_filterMap_named [BEq κ] [LawfulBEq κ] (hg : ∀ a, ∀ b ∈ g a, tag b = name a) :
    ∀ {xs : List α}, (xs.map name).Nodup → ∀ {a : α}, a ∈ xs →
      (xs.filterMap g).filter (tag · == name a) = (g a).toList
  | x :: xs, hnd, a, ha => by
    rw [List.map_cons, List.nodup_cons] at hnd
    have hhead (k : κ) : ((g x).toList).filter (tag · == k) =
        if name x == k then (g x).toList else [] := by
      cases hb : g x with
      | none => simp
      | some b =>
        rw [← hg x b hb]
        simp [List.filter_cons]
    have hcons : (x :: xs).filterMap g = (g x).toList ++ xs.filterMap g := by
      rw [List.filterMap_cons]
      cases g x <;> rfl
    rw [hcons, List.filter_append, hhead]
    rcases List.mem_cons.1 ha with rfl | ha
    · have hrest : (xs.filterMap g).filter (tag · == name a) = [] := by
        refine List.filter_eq_nil_iff.2 fun b hb hk => hnd.1 ?_
        rw [← eq_of_beq hk]
        exact (map_filterMap_sublist hg xs).subset (List.mem_map.2 ⟨b, hb, rfl⟩)
      rw [hrest, List.append_nil, if_pos (beq_self_eq_true _)]
    · have hne : ¬ (name x == name a) = true := fun h =>
        hnd.1 (eq_of_beq h ▸ List.mem_map.2 ⟨a, ha, rfl⟩)
      rw [if_neg hne, List.nil_append]
      exact filter_filterMap_named hg hnd.2 ha

end

/-! ## What comes before what -/

/-- Two elements of joined lists, one before the other. -/
theorem pair_sublist_append {a b : α} {xs ys : List α} : [a, b].Sublist (xs ++ ys) ↔
    [a, b].Sublist xs ∨ (a ∈ xs ∧ b ∈ ys) ∨ [a, b].Sublist ys := by
  rw [List.sublist_append_iff]
  constructor
  · rintro ⟨l₁, l₂, heq, h₁, h₂⟩
    match l₁, heq with
    | [], heq => subst heq; exact .inr (.inr h₂)
    | [_], heq =>
      cases heq
      exact .inr (.inl ⟨List.singleton_sublist.1 h₁, List.singleton_sublist.1 h₂⟩)
    | [_, _], heq => cases heq; exact .inl h₁
    | _ :: _ :: _ :: _, heq => cases heq
  · rintro (h | ⟨ha, hb⟩ | h)
    · exact ⟨[a, b], [], rfl, h, List.nil_sublist _⟩
    · exact ⟨[a], [b], rfl, List.singleton_sublist.2 ha, List.singleton_sublist.2 hb⟩
    · exact ⟨[], [a, b], rfl, List.nil_sublist _, h⟩

theorem pair_sublist_filter {p : α → Bool} {a b : α} {xs : List α} :
    [a, b].Sublist (xs.filter p) ↔ (p a = true ∧ p b = true) ∧ [a, b].Sublist xs := by
  constructor
  · intro h
    have hmem {c : α} (hc : c ∈ [a, b]) : p c = true := (List.mem_filter.1 (h.subset hc)).2
    exact ⟨⟨hmem (by simp), hmem (by simp)⟩, h.trans List.filter_sublist⟩
  · rintro ⟨⟨ha, hb⟩, h⟩
    simpa [ha, hb] using h.filter p

/-- In a list without repetitions, what comes before an element stands in front of it. -/
theorem pair_sublist_split {a b : α} {pre post : List α} (hnd : (pre ++ b :: post).Nodup) :
    [a, b].Sublist (pre ++ b :: post) ↔ a ∈ pre := by
  have hpost : b ∉ post := (List.nodup_cons.1 (List.nodup_append.1 hnd).2.1).1
  rw [pair_sublist_append]
  constructor
  · rintro (h | ⟨ha, -⟩ | h)
    · exact h.subset (by simp)
    · exact ha
    · cases h with
      | cons _ h => exact absurd (h.subset (by simp)) hpost
      | cons_cons _ h => exact absurd (List.singleton_sublist.1 h) hpost
  · exact fun ha => .inr (.inl ⟨ha, List.mem_cons_self⟩)

/-- Elements by key, smallest first; those of one key keep their order. -/
def buckets (key : α → Nat) (xs : List α) (n : Nat) : List α :=
  (List.range n).flatMap fun i => xs.filter (key · == i)

section
variable {key : α → Nat} {xs : List α}

theorem buckets_succ (key : α → Nat) (xs : List α) (n : Nat) :
    buckets key xs (n + 1) = buckets key xs n ++ xs.filter (key · == n) := by
  simp [buckets, List.range_succ]

theorem mem_buckets {n : Nat} {a : α} : a ∈ buckets key xs n ↔ key a < n ∧ a ∈ xs := by
  simp [buckets, and_comm]

/-- **Buckets are stable**: an element comes before another if its key is smaller, or if it came before it
and the keys are equal. -/
theorem pair_sublist_buckets {a b : α} : ∀ {n : Nat}, [a, b].Sublist (buckets key xs n) ↔
    key b < n ∧ (key a < key b ∧ a ∈ xs ∧ b ∈ xs ∨ key a = key b ∧ [a, b].Sublist xs)
  | 0 => by simp [buckets]
  | n + 1 => by
    rw [buckets_succ, pair_sublist_append, pair_sublist_buckets, pair_sublist_filter, mem_buckets,
      List.mem_filter, beq_iff_eq, beq_iff_eq]
    constructor
    · rintro (⟨hn, h⟩ | ⟨⟨hn, ha⟩, hb, hk⟩ | ⟨⟨hka, hkb⟩, h⟩)
      · exact ⟨by omega, h⟩
      · exact ⟨by omega, .inl ⟨by omega, ha, hb⟩⟩
      · exact ⟨by omega, .inr ⟨by omega, h⟩⟩
    · rintro ⟨hn, ⟨hk, ha, hb⟩ | ⟨hk, h⟩⟩
      · by_cases hbn : key b < n
        · exact .inl ⟨hbn, .inl ⟨hk, ha, hb⟩⟩
        · exact .inr (.inl ⟨⟨by omega, ha⟩, hb, by omega⟩)
      · by_cases hbn : key b < n
        · exact .inl ⟨hbn, .inr ⟨hk, h⟩⟩
        · exact .inr (.inr ⟨⟨by omega, by omega⟩, h⟩)

theorem buckets_perm (key : α → Nat) (xs : List α) :
    ∀ n : Nat, (buckets key xs n).Perm (xs.filter (key · < n))
  | 0 => by simp [buckets]
  | n + 1 => by
    have hlow : (xs.filter (key · < n + 1)).filter (key · < n) = xs.filter (key · < n) := by
      rw [List.filter_filter]
      refine List.filter_congr fun a _ => ?_
      rw [← Bool.decide_and, decide_eq_decide]
      omega
    have hhigh : (xs.filter (key · < n + 1)).filter (fun a => !decide (key a < n)) =
        xs.filter (key · == n) := by
      rw [List.filter_filter]
      refine List.filter_congr fun a _ => ?_
      rw [Bool.eq_iff_iff, Bool.and_eq_true, Bool.not_eq_true', decide_eq_false_iff_not,
        decide_eq_true_eq, beq_iff_eq]
      omega
    have hsplit := List.filter_append_perm (key · < n) (xs.filter (key · < n + 1))
    rw [hlow, hhigh] at hsplit
    rw [buckets_succ]
    exact ((buckets_perm key xs n).append_right _).trans hsplit

end

end

end CloudScaffold
