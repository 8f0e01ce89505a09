import CloudScaffold.Proofs.Template.SketchRun
/-!
# Uses of a draft

Templates are not the only way to work on a draft: whatever is done with one, in any order, is a list of
uses, each of which gives an answer or a fault and leaves a draft (`Draft.use`, `Draft.after`). A template
is a use like any other, and what it made before it failed stays.

No use changes what the draft was started from (`origin_after`). A use brings at most one variable of a
name, and only if there is none yet (`named_use`); so the variable of a name is the one that was brought
first (`named_after`).
-/
namespace CloudScaffold.Draft

open Drafting

/-- Something to do with a draft. -/
inductive Use where
  | name (role : String)
  | label (suffix : String)
  | tags (suffix : String)
  | add (m : Making)
  | has (kind : String)
  | get (kind : String)
  | ref (kind attr : String)
  | value (field : String) (default : Value)
  | number (field : String) (default : Int)
  | flag (field : String)
  | declare (v : Variable)
  | output (o : Output)
  | setPhase (phase : String)
  /-- Runs a template, be it one that is registered or another. -/
  | run (t : Template)

/-- What a use gives back. -/
inductive Answer where
  | nothing
  | value (v : Value)
  | resource (r : Resource)

/-- Uses a draft: the answer, and the draft after it. -/
def use (d : Draft) : Use → Except TemplateFault Answer × Draft
  | .name role => (.ok (.value (.str (d.nameOf role))), d)
  | .label suffix => (.ok (.value (.str (d.label suffix))), d)
  | .tags suffix => (.ok (.value (.map (d.tags suffix))), d)
  | .add m => (.ok (.resource (d.made m)), d.add m)
  | .has kind => (.ok (.value (.bool (d.kind? kind).isSome)), d)
  | .get kind => (match d.kind? kind with
    | some r => .ok (.resource r)
    | none => .error (.noKind kind), d)
  | .ref kind attr => ((d.kindRef kind attr).map fun r => .value (.ref r), d)
  | .value field default => (.ok (.value (d.value field default).1), (d.value field default).2)
  | .number field default => ((d.number field default).map fun n => .value (.int n), d)
  | .flag field => (.ok (.value (.bool (d.flag field))), d)
  | .declare v => (.ok (.value (.var v.name)), d.declare v)
  | .output o => (.ok .nothing, d.output o)
  | .setPhase phase => (.ok .nothing, d.setPhase phase)
  | .run t => ((t.run.on d).1.map fun _ => .nothing, (t.run.on d).2)

/-- A draft after some uses. -/
def after (d : Draft) (us : List Use) : Draft := us.foldl (fun d u => (d.use u).2) d

/-- The variables of a name. -/
def named (d : Draft) (n : String) : List Variable := d.inputs.filter (·.name == n)

/-- The variable that a use brings under a name, if there is none of that name yet. -/
inductive Brings (d : Draft) (n : String) : Use → Variable → Prop
  | declare {v : Variable} (h : v.name = n) : Brings d n (.declare v) v
  | value {default : Value} (h : d.isSecret n (d.given n default) = true) :
    Brings d n (.value n default) (d.secret n (d.given n default))
  | run {t : Template} (h : d.isSecret n (d.given n .null) = true) :
    Brings d n (.run t) (d.secret n (d.given n .null))

section
variable {d d₀ : Draft} {n : String}

/-! ## What stays -/

theorem origin_declare (d : Draft) (v : Variable) : (d.declare v).origin = d.origin := by
  unfold declare
  split <;> rfl

theorem origin_use (d : Draft) (u : Use) : (d.use u).2.origin = d.origin := by
  cases u with
  | value field default =>
    dsimp only [use, Draft.value]
    split
    · exact origin_declare d _
    · rfl
  | declare v => exact origin_declare d v
  | run t => exact (runSteps_grows t).origin
  | _ => rfl

theorem after_append (d : Draft) (us ws : List Use) : d.after (us ++ ws) = (d.after us).after ws :=
  List.foldl_append

/-- **Whatever is done with a draft, it keeps what it was started from.** -/
theorem origin_after (d : Draft) (us : List Use) : (d.after us).origin = d.origin := by
  induction us generalizing d with
  | nil => rfl
  | cons u us ih => exact (ih (d.use u).2).trans (origin_use d u)

theorem brings_origin {u : Use} {v : Variable} : d.origin.Brings n u v ↔ d.Brings n u v := by
  constructor
  · intro h
    cases h with
    | declare hname => exact .declare hname
    | value hsecret => exact .value (d := d) hsecret
    | run hsecret => exact .run (d := d) hsecret
  · intro h
    cases h with
    | declare hname => exact .declare hname
    | value hsecret => exact .value (d := d.origin) hsecret
    | run hsecret => exact .run (d := d.origin) hsecret

/-- What a use may bring is settled by what the draft was started from. -/
theorem brings_congr {u : Use} {v : Variable} (h : d.origin = d₀.origin) :
    d.Brings n u v ↔ d₀.Brings n u v := by
  rw [← brings_origin, h, brings_origin]

/-! ## Variables of a name -/

theorem named_eq_nil_iff : d.named n = [] ↔ n ∉ d.inputNames := by
  simp only [named, List.filter_eq_nil_iff, inputNames, List.mem_map, not_exists, not_and, beq_iff_eq]

theorem named_declare (d : Draft) (v : Variable) : (d.declare v).named n =
    if v.name = n ∧ d.named n = [] then [v] else d.named n := by
  have hany : d.inputs.any (·.name == v.name) = true ↔ ¬ d.named v.name = [] := by
    rw [named_eq_nil_iff, not_not]
    exact any_name_iff
  unfold declare
  by_cases hd : d.named v.name = []
  · rw [if_neg (mt hany.1 (not_not.2 hd))]
    by_cases hn : v.name = n
    · subst hn
      have happend : ({ d with inputs := d.inputs ++ [v] } : Draft).named v.name = d.named v.name ++ [v] := by
        simp [named]
      rw [happend, hd, if_pos ⟨rfl, rfl⟩]
      rfl
    · rw [if_neg fun h => hn h.1]
      simp [named, hn]
  · rw [if_pos (hany.2 hd), if_neg]
    rintro ⟨rfl, h⟩
    exact hd h

/-- Of fields that are taken, at most one brings the variable of a name. -/
theorem filter_foldl_takeInput : ∀ (fs : List String) (vs : List Variable),
    (fs.foldl d.takeInput vs).filter (·.name == n) = vs.filter (·.name == n) ∨
      vs.filter (·.name == n) = [] ∧ d.isSecret n (d.given n .null) = true ∧
        (fs.foldl d.takeInput vs).filter (·.name == n) = [d.secret n (d.given n .null)]
  | [], vs => .inl rfl
  | f :: fs, vs => by
    rw [List.foldl_cons]
    rcases d.takeInput_cases vs f with ⟨hsecret, hnew, htake⟩ | ⟨-, htake⟩
    · rw [htake]
      by_cases hf : n = f
      · subst hf
        have hnone : vs.filter (·.name == n) = [] :=
          List.filter_eq_nil_iff.2 fun v hv hname => hnew (List.mem_map.2 ⟨v, hv, by simpa using hname⟩)
        have hone : (vs ++ [d.secret n (d.given n .null)]).filter (·.name == n) =
            [d.secret n (d.given n .null)] := by
          rw [List.filter_append, hnone]
          simp [secret]
        refine .inr ⟨hnone, hsecret, ?_⟩
        rcases filter_foldl_takeInput fs (vs ++ [d.secret n (d.given n .null)]) with h | ⟨h, -⟩
        · rw [h, hone]
        · rw [hone] at h
          cases h
      · have hsame : (vs ++ [d.secret f (d.given f .null)]).filter (·.name == n) =
            vs.filter (·.name == n) := by
          simp [secret, Ne.symm hf]
        rw [← hsame]
        exact filter_foldl_takeInput fs _
    · rw [htake]
      exact filter_foldl_takeInput fs vs

/-- **A use brings at most one variable of a name, and only if there is none yet.** -/
theorem named_use (d : Draft) (u : Use) (n : String) : (d.use u).2.named n = d.named n ∨
    d.named n = [] ∧ ∃ v, d.Brings n u v ∧ (d.use u).2.named n = [v] := by
  cases u with
  | value field default =>
    dsimp only [use, Draft.value]
    split
    · next hsecret =>
      rw [named_declare]
      split
      · next h =>
        obtain ⟨rfl, hnone⟩ := h
        exact .inr ⟨hnone, _, .value hsecret, rfl⟩
      · exact .inl rfl
    · exact .inl rfl
  | declare v =>
    dsimp only [use]
    rw [named_declare]
    split
    · next h => exact .inr ⟨h.2, v, .declare h.1, rfl⟩
    · exact .inl rfl
  | run t =>
    have hgrows : d.Grows (d.use (.run t)).2 := runSteps_grows t
    obtain ⟨fs, hfs⟩ := hgrows.inputs
    have hinputs : (d.use (.run t)).2.inputs = fs.foldl d.takeInput d.inputs := hfs
    rw [named, named, hinputs]
    rcases filter_foldl_takeInput (n := n) fs d.inputs with h | ⟨hnone, hsecret, h⟩
    · exact .inl h
    · exact .inr ⟨hnone, _, .run hsecret, h⟩
  | _ => exact .inl rfl

/-- A variable that is there stays as it is. -/
theorem named_use_of_ne_nil (h : d.named n ≠ []) (u : Use) : (d.use u).2.named n = d.named n :=
  (named_use d u n).resolve_right fun hnone => h hnone.1

theorem named_after_of_ne_nil (h : d.named n ≠ []) (us : List Use) : (d.after us).named n = d.named n := by
  induction us generalizing d with
  | nil => rfl
  | cons u us ih =>
    have hsame := named_use_of_ne_nil h u
    exact (ih (by rwa [hsame])).trans hsame

/-- **The variable of a name is the one that was brought first.** -/
theorem named_after (us : List Use) (h : d.named n = []) : (d.after us).named n = [] ∨
    ∃ before u rest v, us = before ++ u :: rest ∧ (d.after before).named n = [] ∧ d.Brings n u v ∧
      (d.after us).named n = [v] := by
  induction us using List.reverseRecOn with
  | nil => exact .inl h
  | append_singleton us u ih =>
    have hstep : d.after (us ++ [u]) = ((d.after us).use u).2 := after_append d us [u]
    rw [hstep]
    rcases ih with hnone | ⟨before, w, rest, v, rfl, hbefore, hbrings, hnamed⟩
    · rcases named_use (d.after us) u n with hsame | ⟨-, v, hbrings, hnamed⟩
      · exact .inl (hsame.trans hnone)
      · exact .inr ⟨us, u, [], v, rfl, hnone, (brings_congr (origin_after d us)).1 hbrings, hnamed⟩
    · have hne : (d.after (before ++ w :: rest)).named n ≠ [] := by simp [hnamed]
      refine .inr ⟨before, w, rest ++ [u], v, by simp, hbefore, hbrings, ?_⟩
      exact (named_use_of_ne_nil hne u).trans hnamed

end

end CloudScaffold.Draft
