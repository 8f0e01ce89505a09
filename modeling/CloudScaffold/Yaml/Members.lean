import CloudScaffold.Yaml.Atom
/-!
# The order of sets

A set of numbers shows them in an order of its own, in whatever order they were given. It has some
places. A number takes the place that its mark names, or else the first free place on a walk from
there; and the numbers show place by place.

Members of other kinds have no marks, and a set with one of them shows its members as they were
given. In either case the members that show are those that were given (`shown_perm`).
-/
namespace CloudScaffold.Yaml

open Number

/-- Numbers are marked by their remainders by this prime. -/
def markPrime : Nat := pow2 61 - 1

/-- A mark is a word of 64 bits. A remainder of minus one counts as minus two. -/
def markOf (negative : Bool) (remainder : Nat) : Nat :=
  let r := if negative && remainder = 1 then 2 else remainder
  if negative && r ≠ 0 then pow2 64 - r else r

/-- The mark of a number. Equal numbers have one mark, whether they are whole by kind or by value:
by the prime, `2 ^ 61` is one, so that to halve is to double sixty times. -/
def Atom.mark? : Atom → Option Nat
  | float (.infinite s) => some (markOf s 314159)
  | a => a.number?.map fun (m, halvings) =>
    markOf (m < 0) (m.natAbs * pow2 (60 * halvings % 61) % markPrime)

/-- How many places a set has: eight for up to four members, else the power of two next above twice
their number. -/
def placeCount (members : Nat) : Nat :=
  if members < 5 then 8 else pow2 (Nat.log2 (2 * members) + 1)

/-- The places on the walk of a mark, from a place on: each with the nine behind it if the set has so
many, and then one farther off. -/
def walk (places : Nat) : Nat → Nat → Nat → List Nat
  | 0, _, _ => []
  | steps + 1, mark, i =>
    (if i + 9 < places then List.range' i 10 else [i])
      ++ walk places steps (mark / 32) ((5 * i + 1 + mark / 32) % places)

/-- The first free place on a walk. The mark is used up after thirteen steps, and then the walk comes
to every place. -/
def freePlace (places mark : Nat) (taken : List Nat) : Nat :=
  ((walk places (places + 13) mark (mark % places)).find? fun i => !taken.contains i).getD 0

/-- Members with their places, in the order in which they take them. -/
def takePlaces (places : Nat) (taken : List Nat) : List (Nat × Atom) → List (Nat × Atom)
  | [] => []
  | (mark, a) :: r =>
    let i := freePlace places mark taken
    (i, a) :: takePlaces places (i :: taken) r

/-- A member with its mark. -/
def marked? (a : Atom) : Option (Nat × Atom) := a.mark?.map fun m => (m, a)

/-- The members of a set in the order in which they show. -/
def shown (members : List Atom) : List Atom :=
  match members.mapM marked? with
  | none => members
  | some ms =>
    ((takePlaces (placeCount members.length) [] ms).mergeSort fun x y => x.1 ≤ y.1).map (·.2)

theorem takePlaces_map (places : Nat) (taken : List Nat) (ms : List (Nat × Atom)) :
    (takePlaces places taken ms).map (·.2) = ms.map (·.2) := by
  induction ms generalizing taken with
  | nil => rfl
  | cons m r ih => simp [takePlaces, ih]

theorem map_of_marked {members : List Atom} {ms : List (Nat × Atom)}
    (h : members.mapM marked? = some ms) : ms.map (·.2) = members := by
  induction members generalizing ms with
  | nil => simp at h; simp [← h]
  | cons a r ih =>
    simp only [List.mapM_cons, Option.bind_eq_bind, Option.bind_eq_some_iff, marked?,
      Option.map_eq_some_iff, Option.pure_def, Option.some.injEq] at h
    obtain ⟨_, ⟨m, _, rfl⟩, ms, hr, rfl⟩ := h
    simp [ih hr]

theorem shown_perm (members : List Atom) : (shown members).Perm members := by
  unfold shown
  split
  · exact .refl _
  · next ms h =>
    have own := (takePlaces_map (placeCount members.length) [] ms).trans (map_of_marked h)
    have sorted := (List.mergeSort_perm (takePlaces (placeCount members.length) [] ms)
      fun x y => x.1 ≤ y.1).map (·.2)
    rwa [own] at sorted

end CloudScaffold.Yaml
