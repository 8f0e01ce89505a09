import CloudScaffold.Value.Basic
/-!
# Entries by name

What `Attributes.insert` and `Attributes.ofEntries` do to look-ups and to what holds of the values, and
what the pointers inside entries are.
-/
namespace CloudScaffold

namespace Value

theorem isNull_iff {v : Value} : v.isNull = true ↔ v = .null := by
  cases v <;> simp [isNull]

theorem mem_refsList {p : Pointer} (xs : List Value) :
    p ∈ refsList xs ↔ ∃ x ∈ xs, p ∈ x.refs := by
  induction xs with
  | nil => simp [refsList]
  | cons x xs ih => simp [refsList, ih]

theorem mem_refsEntries {p : Pointer} (kvs : List (String × Value)) :
    p ∈ refsEntries kvs ↔ ∃ kv ∈ kvs, p ∈ kv.2.refs := by
  induction kvs with
  | nil => simp [refsEntries]
  | cons kv kvs ih => simp [refsEntries, ih]

/-- Nulls hold no pointers. -/
theorem mem_refsEntries_filter {p : Pointer} {kvs : Attributes} (h : p ∈ refsEntries kvs) :
    p ∈ refsEntries (kvs.filter fun kv => !kv.2.isNull) := by
  rw [mem_refsEntries] at h ⊢
  obtain ⟨kv, hkv, hp⟩ := h
  refine ⟨kv, List.mem_filter.2 ⟨hkv, ?_⟩, hp⟩
  rw [Bool.not_eq_true', ← Bool.not_eq_true, isNull_iff]
  intro hnull
  rw [hnull] at hp
  cases hp

end Value

namespace Attributes

section
variable {P : Value → Prop}

theorem get?_cons (k n : String) (v : Value) (m : Attributes) :
    get? ((k, v) :: m) n = if n = k then some v else m.get? n := by
  rw [get?, List.lookup_cons]
  by_cases hn : n = k
  · simp [hn]
  · have hb : (n == k) = false := by simpa using hn
    rw [hb, if_neg hn]
    rfl

theorem mem_of_get? {n : String} {v : Value} : ∀ {m : Attributes}, m.get? n = some v → (n, v) ∈ m
  | (k, u) :: m, h => by
    rw [get?_cons] at h
    by_cases hn : n = k
    · rw [if_pos hn] at h
      cases h
      rw [hn]
      exact List.mem_cons_self
    · rw [if_neg hn] at h
      exact List.mem_cons_of_mem _ (mem_of_get? h)

/-- Among entries of different names, what is found is what is there. -/
theorem get?_eq_some_iff {n : String} {v : Value} : ∀ {m : Attributes}, (m.map (·.1)).Nodup →
    (m.get? n = some v ↔ (n, v) ∈ m)
  | [], _ => by simp [get?]
  | (k, u) :: m, hnd => by
    rw [List.map_cons, List.nodup_cons] at hnd
    refine ⟨mem_of_get?, fun h => ?_⟩
    rw [get?_cons]
    rcases List.mem_cons.1 h with h | h
    · cases h
      exact if_pos rfl
    · have hne : n ≠ k := fun e => hnd.1 (e ▸ List.mem_map.2 ⟨(n, v), h, rfl⟩)
      rw [if_neg hne]
      exact (get?_eq_some_iff hnd.2).2 h

/-- The order of entries of different names does not matter. -/
theorem get?_perm {m m' : Attributes} (h : m'.Perm m) (hnd : (m.map (·.1)).Nodup) (n : String) :
    m'.get? n = m.get? n := by
  refine Option.ext fun v => ?_
  rw [get?_eq_some_iff hnd, get?_eq_some_iff ((h.map _).nodup_iff.2 hnd), h.mem_iff]

/-- An inserted entry is found under its name, and nothing else changes. -/
theorem get?_insert (k n : String) (v : Value) : ∀ m : Attributes,
    (m.insert k v).get? n = if n = k then some v else m.get? n
  | [] => by rw [insert, get?_cons]
  | (k', v') :: m => by
    rw [insert]
    by_cases hk : k' = k
    · rw [if_pos hk, get?_cons, get?_cons, hk]
      by_cases hn : n = k
      · rw [if_pos hn, if_pos hn]
      · rw [if_neg hn, if_neg hn, if_neg hn]
    · rw [if_neg hk, get?_cons, get?_cons, get?_insert k n v m]
      by_cases hn : n = k'
      · rw [if_pos hn, if_pos hn, if_neg (hn ▸ hk)]
      · rw [if_neg hn, if_neg hn]

theorem isEmpty_insert (m : Attributes) (k : String) (v : Value) : (m.insert k v).isEmpty = false := by
  cases m with
  | nil => rfl
  | cons e m =>
    rw [insert]
    split <;> rfl

theorem isEmpty_ofEntries : ∀ kvs : Attributes, (ofEntries kvs).isEmpty = kvs.isEmpty := by
  have hfold : ∀ kvs m : Attributes,
      (kvs.foldl (fun m kv => insert m kv.1 kv.2) m).isEmpty = (m.isEmpty && kvs.isEmpty) := by
    intro kvs
    induction kvs with
    | nil => simp
    | cons kv kvs ih =>
      intro m
      rw [List.foldl_cons, ih, isEmpty_insert]
      simp
  intro kvs
  rw [ofEntries, hfold]
  rfl

theorem forall_insert {v : Value} (hv : P v) (k : String) : ∀ {m : Attributes},
    (∀ kv ∈ m, P kv.2) → ∀ kv ∈ m.insert k v, P kv.2
  | [], _ => by simpa [insert] using hv
  | e :: m, h => by
    rw [List.forall_mem_cons] at h
    rw [insert]
    split
    · exact List.forall_mem_cons.2 ⟨hv, h.2⟩
    · exact List.forall_mem_cons.2 ⟨h.1, forall_insert hv k h.2⟩

/-- Entries have no values but those that they were made from. -/
theorem forall_ofEntries {kvs : Attributes} (h : ∀ kv ∈ kvs, P kv.2) :
    ∀ kv ∈ ofEntries kvs, P kv.2 := by
  have hfold : ∀ kvs m : Attributes, (∀ kv ∈ kvs, P kv.2) → (∀ kv ∈ m, P kv.2) →
      ∀ kv ∈ kvs.foldl (fun m kv => insert m kv.1 kv.2) m, P kv.2 := by
    intro kvs
    induction kvs with
    | nil => exact fun _ _ hm => hm
    | cons e kvs ih =>
      intro m h hm
      rw [List.forall_mem_cons] at h
      rw [List.foldl_cons]
      exact ih _ h.2 (forall_insert h.1 e.1 hm)
  exact hfold kvs [] h (List.forall_mem_nil _)

/-- Entries of the same names agree if they agree without their nulls. -/
theorem eq_of_filter_eq : ∀ {xs ys : Attributes}, (xs.map (·.1)).Nodup →
    xs.map (·.1) = ys.map (·.1) →
    (xs.filter fun kv => !kv.2.isNull) = (ys.filter fun kv => !kv.2.isNull) → xs = ys
  | [], ys, _, hk, _ => by simpa using hk.symm
  | (k, x) :: xs, (k', y) :: ys, hnd, hk, h => by
    rw [List.map_cons, List.map_cons, List.cons.injEq] at hk
    obtain ⟨rfl, hk⟩ := hk
    rw [List.map_cons, List.nodup_cons] at hnd
    have away {zs us : Attributes} {z : Value} (hz : k ∉ zs.map (·.1))
        (he : (zs.filter fun kv => !kv.2.isNull) = (k, z) :: us) : False :=
      hz (List.mem_map.2 ⟨(k, z), (List.mem_filter.1 (he ▸ List.mem_cons_self)).1, rfl⟩)
    rw [List.filter_cons, List.filter_cons] at h
    cases hx : x.isNull <;> cases hy : y.isNull <;> simp only [hx, hy] at h
    · simp only [Bool.not_false, if_true, List.cons.injEq, Prod.mk.injEq, true_and] at h
      rw [h.1, eq_of_filter_eq hnd.2 hk h.2]
    · exact (away (hk ▸ hnd.1) h.symm).elim
    · exact (away hnd.1 h).elim
    · rw [Value.isNull_iff.1 hx, Value.isNull_iff.1 hy, eq_of_filter_eq hnd.2 hk (by simpa using h)]

end

end Attributes

end CloudScaffold
