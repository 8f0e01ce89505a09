import CloudScaffold.Proofs.Number.Numeral
import CloudScaffold.Proofs.Template.Evaluation
import CloudScaffold.Proofs.Template.Sketch
import CloudScaffold.Proofs.Value.Attributes
import Mathlib.Data.List.Forall2
/-!
# Sketches of terms are right

`Sketch.Sees` relates a sketch to a draft in the middle of a run: what the sketch takes for known holds
of the draft, and its kinds and handles stand for resources of the draft. Main statement: a term for
which a sketch lists keys (`points`) has a value on every such draft, and what the value refers to is
among them (`points_sound`).

The variables inside a value are either declared in any case or those of sensitive fields that the
term takes.
-/
namespace CloudScaffold

open Number Text

/-! ## Pointers inside values -/

theorem Value.refs_of_isPlain {v : Value} (h : v.isPlain = true) : v.refs = [] := by
  cases v <;> simp_all [Value.isPlain, Value.refs]

/-- What a pointer may be, for the keys that it may refer to and the variables that are declared. -/
def Pointer.Within (base : String) (globals : List String) (ps : List Key) (D : String → Prop) :
    Pointer → Prop
  | .ref r => ∃ key ∈ ps, r.target = key.address base
  | .var n => n ∈ globals ∨ D n

theorem Pointer.Within.mono {base : String} {globals : List String} {ps qs : List Key}
    {D E : String → Prop} {p : Pointer} (h : p.Within base globals ps D) (hps : ∀ key ∈ ps, key ∈ qs)
    (hD : ∀ n, D n → E n) : p.Within base globals qs E := by
  cases p with
  | ref r => obtain ⟨key, hk, ht⟩ := h; exact ⟨key, hps key hk, ht⟩
  | var n => exact h.imp id (hD n)

/-! ## Keys and resources -/

/-- Whether a resource is the one that a key stands for. -/
structure Key.Names (base : String) (key : Key) (r : Resource) : Prop where
  mode : r.mode = key.mode
  type : r.type = key.type
  name : r.name = nameUnder base key.role

section
variable {base : String} {key : Key} {r : Resource}

theorem Key.Names.address_eq (h : key.Names base r) : r.address = key.address base := by
  rw [Resource.address, h.mode, h.type, h.name]; rfl

theorem Key.Names.target_eq (h : key.Names base r) (a : String) :
    (r.reference a).target = key.address base := h.address_eq

theorem Key.Names.isData_eq (h : key.Names base r) : r.isData = key.data := by
  rw [Resource.isData, h.mode, Key.mode]
  cases key.data <;> rfl

end

/-- Entries of a draft and of a sketch under the same names. -/
abbrev Registered (base : String) : List (String × Resource) → List (String × Key) → Prop :=
  List.Forall₂ fun e m => e.1 = m.1 ∧ m.2.Names base e.2

section
variable {base : String} {es : List (String × Resource)} {ms : List (String × Key)}

theorem Registered.lookup (h : Registered base es ms) (n : String) :
    (es.lookup n = none ∧ ms.lookup n = none) ∨
    ∃ r key, es.lookup n = some r ∧ ms.lookup n = some key ∧ key.Names base r := by
  induction h with
  | nil => simp
  | @cons e m es ms hem _ ih =>
    obtain ⟨en, r⟩ := e
    obtain ⟨mn, key⟩ := m
    obtain ⟨rfl, hn⟩ : en = mn ∧ key.Names base r := hem
    by_cases hx : n = en
    · exact .inr ⟨r, key, by simp [hx], by simp [hx], hn⟩
    · have hb : (n == en) = false := by simpa using hx
      simpa only [List.lookup_cons, hb] using ih

theorem Registered.lookup_of_some (h : Registered base es ms) {n : String} {key : Key}
    (hk : ms.lookup n = some key) : ∃ r, es.lookup n = some r ∧ key.Names base r := by
  rcases h.lookup n with ⟨_, h2⟩ | ⟨r, key', h1, h2, hn⟩
  · simp [h2] at hk
  · rw [h2] at hk; cases hk; exact ⟨r, h1, hn⟩

theorem Registered.isSome_lookup (h : Registered base es ms) (n : String) :
    (es.lookup n).isSome = (ms.lookup n).isSome := by
  rcases h.lookup n with ⟨h1, h2⟩ | ⟨r, key, h1, h2, _⟩ <;> simp [h1, h2]

end

/-! ## Sketches and drafts -/

/-- What a sketch takes for known holds of a draft, and its kinds and handles are those of the draft;
`G` are the variables that are declared in any case. -/
structure Sketch.Sees (G : List String) (k : Sketch) (d : Draft) (hs : Handles) : Prop where
  globals : k.globals = G
  answers : ∀ c b, k.answers.lookup c = some b → c.holds d.origin [] = .ok b
  shapes : ∀ f sh, k.shapes f = some sh →
    d.usable f .null = d.given f .null ∧ sh.Holds (d.given f .null)
  plain : ∀ f, (d.given f .null).isPlain = true
  inbound : ∃ rs, d.inboundRules = .ok rs
  kinds : Registered d.base d.kinds k.kinds
  handles : Registered d.base hs k.handles

/-- The pointers of a value that was computed while some fields were taken. -/
def Sketch.Covers (G : List String) (d : Draft) (ps : List Key) (fs : List String)
    (refs : List Pointer) : Prop :=
  ∀ p ∈ refs, p.Within d.base G ps fun n => n ∈ fs ∧ d.isSecret n (d.given n .null) = true

namespace Sketch

section
variable {G : List String} {k : Sketch} {d : Draft} {hs : Handles}

theorem Sees.view (h : k.Sees G d hs) : k.Sees G d.view hs where
  globals := h.globals
  answers := h.answers
  shapes := h.shapes
  plain := h.plain
  inbound := h.inbound
  kinds := h.kinds
  handles := h.handles

theorem Sees.answer (h : k.Sees G d hs) : ∀ {c : Cond} {b : Bool}, k.answer c = some b →
    c.holds d hs = .ok b
  | .always, b, hb => by simpa [Sketch.answer, Cond.holds] using hb
  | .never, b, hb => by simpa [Sketch.answer, Cond.holds] using hb
  | .made n, b, hb => by
    rw [Cond.holds, h.handles.isSome_lookup]
    simpa [Sketch.answer] using hb
  | .kind n, b, hb => by
    have := h.kinds.isSome_lookup n
    rw [Cond.holds, Draft.kind?, this]
    simpa [Sketch.answer] using hb
  | .not c, b, hb => by
    obtain ⟨a, ha, rfl⟩ := Option.map_eq_some_iff.1 hb
    rw [Cond.holds, h.answer ha]; rfl
  | .flag f, b, hb => h.answers _ b hb
  | .equals f t, b, hb => h.answers _ b hb
  | .given f, b, hb => h.answers _ b hb
  | .inbound, b, hb => h.answers _ b hb

/-- What a known field gives. -/
theorem Sees.knows (h : k.Sees G d hs) {f : String} {p : Shape → Bool} (hp : k.knows f p = true) :
    ∃ sh, p sh = true ∧ d.usable f .null = d.given f .null ∧ sh.Holds (d.given f .null) := by
  unfold Sketch.knows at hp
  cases hsh : k.shapes f with
  | none => simp [hsh] at hp
  | some sh => exact ⟨sh, by simpa [hsh] using hp, h.shapes f sh hsh⟩

end

/-! ## What the shapes are for -/

theorem isNumber_spec {sh : Shape} {v : Value} (hn : sh.isNumber = true) (hv : sh.Holds v) :
    v.isAbsent = true ∨ ∃ n, numberOf v = .ok n := by
  cases sh with
  | oneOf vs =>
    have hall := List.all_eq_true.1 hn v hv
    simp only [Bool.or_eq_true] at hall
    rcases hall with h | h
    · exact .inl h
    · cases hv : numberOf v with
      | ok n => exact .inr ⟨n, rfl⟩
      | error e => simp [hv, Except.isOk, Except.toBool] at h
  | numeral =>
    obtain ⟨s, rfl, hs⟩ := hv
    simp only [isNumeralText, Bool.and_eq_true, Bool.not_eq_true', List.isEmpty_eq_false_iff,
      List.all_eq_true, decide_eq_true_eq] at hs
    obtain ⟨⟨hne, hall⟩, hlen⟩ := hs
    right
    rw [numberOf, readInt_of_isDigit hne hall hlen]
    exact ⟨_, rfl⟩
  | text => simp [Shape.isNumber] at hn

theorem isDecimal_spec {sh : Shape} {v : Value} (hd : sh.isDecimal = true) (hv : sh.Holds v) :
    ∃ x, decimalOf v = .ok x := by
  cases sh with
  | oneOf vs =>
    have := List.all_eq_true.1 hd v hv
    cases hv : decimalOf v with
    | ok x => exact ⟨x, rfl⟩
    | error e => simp [hv, Except.isOk, Except.toBool] at this
  | numeral => simp [Shape.isDecimal] at hd
  | text => simp [Shape.isDecimal] at hd

theorem isText_spec {sh : Shape} {v : Value} (ht : sh.isText = true) (hv : sh.Holds v) :
    ∃ s, v = .str s := by
  cases sh with
  | oneOf vs =>
    have := List.all_eq_true.1 ht v hv
    cases v <;> simp_all [Value.isStr]
  | numeral => obtain ⟨s, hs, _⟩ := hv; exact ⟨s, hs⟩
  | text => exact hv

theorem isAmong_spec {sh : Shape} {keys : List String} {s : String} (ha : sh.isAmong keys = true)
    (hv : sh.Holds (.str s)) : s ∈ keys := by
  cases sh with
  | oneOf vs => simpa using List.all_eq_true.1 ha _ hv
  | numeral => simp [Shape.isAmong] at ha
  | text => simp [Shape.isAmong] at ha

/-! ## Terms -/

section
variable {G : List String} {k : Sketch} {d : Draft} {hs : Handles}

theorem Covers.of_eq_nil {ps : List Key} {fs : List String} {refs : List Pointer} (h : refs = []) :
    Covers G d ps fs refs := by
  subst h
  intro p hp
  cases hp

theorem Covers.mono {ps qs : List Key} {fs gs : List String} {refs : List Pointer}
    (h : Covers G d ps fs refs) (hps : ∀ key ∈ ps, key ∈ qs) (hfs : ∀ f ∈ fs, f ∈ gs) :
    Covers G d qs gs refs :=
  fun p hp => (h p hp).mono hps fun _ hn => ⟨hfs _ hn.1, hn.2⟩

theorem Covers.append {ps qs : List Key} {fs gs : List String} {xs ys : List Pointer}
    (hx : Covers G d ps fs xs) (hy : Covers G d qs gs ys) :
    Covers G d (ps ++ qs) (fs ++ gs) (xs ++ ys) := by
  intro p hp
  rcases List.mem_append.1 hp with hp | hp
  · exact hx.mono (fun _ h => by simp [h]) (fun _ h => by simp [h]) p hp
  · exact hy.mono (fun _ h => by simp [h]) (fun _ h => by simp [h]) p hp

/-- The value of a field refers at most to the variable of the field. -/
theorem Sees.covers_usable (h : k.Sees G d hs) (f : String) {ps : List Key} :
    Covers G d ps [f] (d.usable f .null).refs := by
  intro p hp
  unfold Draft.usable at hp
  by_cases hs : d.isSecret f (d.given f .null)
  · simp only [hs, if_true, Value.refs, List.mem_singleton] at hp
    subst hp
    exact .inr ⟨by simp, hs⟩
  · simp [hs, Value.refs_of_isPlain (h.plain f)] at hp

theorem Sees.covers_lit (h : k.Sees G d hs) {v : Value} (hv : k.isFree v = true) {ps : List Key}
    {fs : List String} : Covers G d ps fs v.refs := by
  intro p hp
  have := List.all_eq_true.1 hv p hp
  cases p with
  | ref r => simp at this
  | var n => exact .inl (by simpa [h.globals] using this)

theorem refs_inboundBlocks (parts : List (String × InboundPart)) (rs : List InboundRule) :
    (CloudScaffold.inboundBlocks parts rs).refs = [] := by
  have part : ∀ (r : InboundRule) (i : Nat) (q : InboundPart), (q.value r i).refs = [] := by
    intro r i q
    cases q <;> simp [InboundPart.value, Value.refs, Value.refsList]
  unfold CloudScaffold.inboundBlocks
  split
  · rfl
  · rw [List.eq_nil_iff_forall_not_mem]
    intro p hp
    rw [Value.refs, Value.mem_refsList] at hp
    obtain ⟨x, hx, hp⟩ := hp
    obtain ⟨⟨r, i⟩, _, rfl⟩ := List.mem_map.1 hx
    rw [Value.refs, Value.mem_refsEntries] at hp
    obtain ⟨kv, hkv, hp⟩ := hp
    obtain ⟨q, _, rfl⟩ := List.mem_map.1 hkv
    simp [part] at hp

theorem refs_texts {α : Type} (f : α → String) (xs : List α) :
    (Value.list (xs.map fun x => .str (f x))).refs = [] := by
  rw [List.eq_nil_iff_forall_not_mem]
  intro p hp
  rw [Value.refs, Value.mem_refsList] at hp
  obtain ⟨x, hx, hp⟩ := hp
  obtain ⟨t, _, rfl⟩ := List.mem_map.1 hx
  simp [Value.refs] at hp

mutual
theorem Sees.isData_spec (h : k.Sees G d hs) : ∀ {t : Term}, k.isData t = true →
    ∃ v, t.value d hs = .ok v ∧ v.data?.isSome = true
  | .lit v, ht => by
    refine ⟨v, rfl, ?_⟩
    cases v <;> simp_all [isData, Value.isStr, Value.data?]
  | .field f, ht => by
    obtain ⟨sh, hsh, hu, hv⟩ := h.knows (by simpa [isData] using ht)
    obtain ⟨s, hs⟩ := isText_spec hsh hv
    exact ⟨.str s, by rw [Term.value, hu, hs], rfl⟩
  | .list ts, ht => by
    obtain ⟨vs, hvs, hj⟩ := h.isDataAll_spec (by simpa [isData] using ht)
    refine ⟨.list vs, by rw [Term.value, hvs]; rfl, ?_⟩
    rw [Value.data?, Option.isSome_map, hj]
  | .map kvs, ht => by
    obtain ⟨vs, hvs, hj⟩ := h.isDataEntries_spec (by simpa [isData] using ht)
    refine ⟨.map vs, by rw [Term.value, hvs]; rfl, ?_⟩
    rw [Value.data?, Option.isSome_map, hj]
  | .fieldOr _ _, ht | .number _ _, ht | .decimal _, ht | .flag _, ht | .ending _ _ _, ht
  | .label _ _, ht | .compactName _ _, ht | .described _, ht | .tags _, ht | .kind _ _, ht
  | .made _ _, ht | .lookup _ _ _, ht | .ite _ _ _, ht | .block _, ht | .interp _, ht
  | .json _, ht | .inboundBlocks _, ht | .inboundPorts, ht | .inboundSources, ht => by
    simp [isData] at ht

theorem Sees.isDataAll_spec (h : k.Sees G d hs) : ∀ {ts : List Term}, k.isDataAll ts = true →
    ∃ vs, Term.valueAll d hs ts = .ok vs ∧ (Value.dataAll? vs).isSome = true
  | [], _ => ⟨[], rfl, rfl⟩
  | t :: ts, ht => by
    simp only [isDataAll, Bool.and_eq_true] at ht
    obtain ⟨v, hv, hj⟩ := h.isData_spec ht.1
    obtain ⟨vs, hvs, hjs⟩ := h.isDataAll_spec ht.2
    refine ⟨v :: vs, by rw [Term.valueAll, hv, hvs]; rfl, ?_⟩
    obtain ⟨a, ha⟩ := Option.isSome_iff_exists.1 hj
    obtain ⟨as, has⟩ := Option.isSome_iff_exists.1 hjs
    simp [Value.dataAll?, ha, has]

theorem Sees.isDataEntries_spec (h : k.Sees G d hs) : ∀ {kvs : List (String × Term)},
    k.isDataEntries kvs = true →
    ∃ vs, Term.valueEntries d hs kvs = .ok vs ∧ (Value.dataEntries? vs).isSome = true
  | [], _ => ⟨[], rfl, rfl⟩
  | (key, t) :: r, ht => by
    simp only [isDataEntries, Bool.and_eq_true] at ht
    obtain ⟨v, hv, hj⟩ := h.isData_spec ht.1
    obtain ⟨vs, hvs, hjs⟩ := h.isDataEntries_spec ht.2
    refine ⟨(key, v) :: vs, by rw [Term.valueEntries, hv, hvs]; rfl, ?_⟩
    obtain ⟨a, ha⟩ := Option.isSome_iff_exists.1 hj
    obtain ⟨as, has⟩ := Option.isSome_iff_exists.1 hjs
    simp [Value.dataEntries?, ha, has]
end

/-- A value that a computation gives, with its pointers covered. -/
def Settles (G : List String) (d : Draft) (ps : List Key) (fs : List String)
    (r : Except TemplateFault Value) : Prop :=
  ∃ v, r = .ok v ∧ Covers G d ps fs v.refs

theorem Settles.mono {ps qs : List Key} {fs gs : List String} {r : Except TemplateFault Value}
    (h : Settles G d ps fs r) (hps : ∀ key ∈ ps, key ∈ qs) (hfs : ∀ f ∈ fs, f ∈ gs) :
    Settles G d qs gs r := by
  obtain ⟨v, hv, hc⟩ := h
  exact ⟨v, hv, hc.mono hps hfs⟩

/-- What a sketch of a look-up asks for. -/
theorem points_lookup {k : Sketch} {f : String} {table : List (String × Term)} {dflt : List Term}
    {ps : List Key} (h : k.points (.lookup f table dflt) = some ps) :
    k.knows f (·.isText) = true ∧
      (dflt = [] → k.knows f (·.isAmong (table.map (·.1))) = true) ∧
      ∃ ps1 ps2, k.pointsEntries table = some ps1 ∧ k.pointsAll dflt = some ps2 ∧ ps = ps1 ++ ps2 := by
  rw [points] at h
  by_cases ht : k.knows f (·.isText) = true
  · by_cases ha : dflt.isEmpty = true ∧ k.knows f (·.isAmong (table.map (·.1))) = false
    · simp [ht, ha.1, ha.2] at h
    · refine ⟨ht, fun hd => by simpa [hd] using ha, ?_⟩
      simp only [ht, Bool.not_true, Bool.false_eq_true, if_false, Bool.and_eq_true, Bool.not_eq_true',
        ha, Option.bind_eq_bind, Option.bind_eq_some_iff, Option.some.injEq] at h
      obtain ⟨ps1, h1, ps2, h2, rfl⟩ := h
      exact ⟨ps1, ps2, h1, h2, rfl⟩
  · simp [ht] at h

mutual
/-- **Terms with a sketch have a value**, and what it refers to is what the sketch lists. -/
theorem Sees.points_sound (h : k.Sees G d hs) : ∀ {t : Term} {ps : List Key},
    k.points t = some ps → Settles G d ps (t.takes d hs) (t.value d hs)
  | .lit v, ps, ht => by
    simp only [points, Option.ite_none_right_eq_some] at ht
    exact ⟨v, rfl, h.covers_lit ht.1⟩
  | .field f, ps, ht => ⟨_, rfl, h.covers_usable f⟩
  | .fieldOr f g, ps, ht => by
    refine ⟨_, rfl, ?_⟩
    simp only [Term.takes]
    split
    · exact h.covers_usable f
    · exact (h.covers_usable g).mono (fun _ hk => hk) (by simp)
  | .number f n, ps, ht => by
    simp only [points, Option.ite_none_right_eq_some] at ht
    obtain ⟨sh, hsh, _, hv⟩ := h.knows ht.1
    have heq : d.number f n =
        if (d.given f .null).isAbsent then .ok n else numberOf (d.given f .null) := rfl
    rcases isNumber_spec hsh hv with ha | ⟨m, hm⟩
    · exact ⟨.int n, by simp [Term.value, heq, ha, Except.map], Covers.of_eq_nil rfl⟩
    · by_cases ha : (d.given f .null).isAbsent
      · exact ⟨.int n, by simp [Term.value, heq, ha, Except.map], Covers.of_eq_nil rfl⟩
      · exact ⟨.int m, by simp [Term.value, heq, ha, hm, Except.map], Covers.of_eq_nil rfl⟩
  | .decimal f, ps, ht => by
    simp only [points, Option.ite_none_right_eq_some] at ht
    obtain ⟨sh, hsh, hu, hv⟩ := h.knows ht.1
    obtain ⟨x, hx⟩ := isDecimal_spec hsh hv
    exact ⟨.float x, by rw [Term.value, hu, hx]; rfl, Covers.of_eq_nil rfl⟩
  | .ending f g e, ps, ht => by
    simp only [points, Option.ite_none_right_eq_some] at ht
    obtain ⟨sh, hsh, hu, hv⟩ := h.knows ht.1
    obtain ⟨s, hs⟩ := isText_spec hsh hv
    simp only [Term.value, hu, hs, Term.withEnding]
    split
    · exact ⟨_, rfl, Covers.of_eq_nil rfl⟩
    · exact ⟨_, rfl, Covers.of_eq_nil rfl⟩
  | .kind n a, ps, ht => by
    simp only [points] at ht
    obtain ⟨key, hk, rfl⟩ := Option.map_eq_some_iff.1 ht
    obtain ⟨r, hr, hn⟩ := h.kinds.lookup_of_some hk
    refine ⟨.ref (r.reference a), by simp [Term.value, Draft.kindRef, Draft.kind?, hr, Except.map], ?_⟩
    intro p hp
    rw [Value.refs, List.mem_singleton] at hp
    subst hp
    exact ⟨key, by simp, hn.target_eq a⟩
  | .made n a, ps, ht => by
    simp only [points] at ht
    obtain ⟨key, hk, rfl⟩ := Option.map_eq_some_iff.1 ht
    obtain ⟨r, hr, hn⟩ := h.handles.lookup_of_some hk
    refine ⟨.ref (r.reference a), by simp [Term.value, hr], ?_⟩
    intro p hp
    rw [Value.refs, List.mem_singleton] at hp
    subst hp
    exact ⟨key, by simp, hn.target_eq a⟩
  | .lookup f table dflt, ps, ht => by
    obtain ⟨hkn, hd, ps1, ps2, h1, h2, rfl⟩ := points_lookup ht
    obtain ⟨sh, hsh, hu, hv⟩ := h.knows hkn
    obtain ⟨s, heq⟩ := isText_spec hsh hv
    rw [heq] at hu
    have hkey : s ∈ table.map (·.1) ∨
        Settles G d ps2 (Term.takesFirst d hs dflt) (Term.valueFirst d hs (.str s) dflt) := by
      match dflt, hd, h2 with
      | [], hd, _ =>
        obtain ⟨sh', hsh', _, hv'⟩ := h.knows (hd rfl)
        rw [heq] at hv'
        exact .inl (isAmong_spec hsh' hv')
      | t :: ts, _, h2 =>
        simp only [pointsAll, Option.bind_eq_bind, Option.bind_eq_some_iff, Option.some.injEq] at h2
        obtain ⟨qs1, hq1, qs2, _, rfl⟩ := h2
        exact .inr ((h.points_sound hq1).mono (fun _ hm => by simp [hm]) fun _ hf => hf)
    have hent := h.pointsTable_sound h1 hkey
    simp only [Term.value, Term.takes, hu, Value.isKey, if_true]
    exact hent.mono (fun _ hm => hm) fun _ hf => by simp [hf]
  | .ite c t e, ps, ht => by
    simp only [points, Option.bind_eq_bind, Option.bind_eq_some_iff] at ht
    obtain ⟨b, hb, ht⟩ := ht
    have hc := h.answer hb
    simp only [Term.value, Term.takes, hc]
    cases b with
    | true => exact h.points_sound ht
    | false => exact h.points_sound ht
  | .list ts, ps, ht => by
    obtain ⟨vs, hvs, hc⟩ := h.pointsAll_sound ht
    exact ⟨.list vs, by rw [Term.value, hvs]; rfl, hc⟩
  | .interp ts, ps, ht => by
    obtain ⟨vs, hvs, hc⟩ := h.pointsAll_sound ht
    exact ⟨.interp vs, by rw [Term.value, hvs]; rfl, hc⟩
  | .map kvs, ps, ht => by
    obtain ⟨vs, hvs, hc⟩ := h.pointsEntries_sound ht
    exact ⟨.map vs, by rw [Term.value, hvs]; rfl, hc⟩
  | .block kvs, ps, ht => by
    obtain ⟨vs, hvs, hc⟩ := h.pointsEntries_sound ht
    exact ⟨.block vs, by rw [Term.value, hvs]; rfl, hc⟩
  | .json t, ps, ht => by
    simp only [points, Option.ite_none_right_eq_some] at ht
    obtain ⟨v, hv, hj⟩ := h.isData_spec ht.1
    obtain ⟨x, hx⟩ := Option.isSome_iff_exists.1 hj
    refine ⟨.str (x.write .line 0), ?_, Covers.of_eq_nil rfl⟩
    simp [Term.value, hv, Term.jsonText, Value.toJson?, hx, bind, Except.bind]
  | .inboundBlocks parts, ps, ht => by
    obtain ⟨rs, hrs⟩ := h.inbound
    exact ⟨_, by rw [Term.value, hrs]; rfl, Covers.of_eq_nil (refs_inboundBlocks parts rs)⟩
  | .inboundPorts, ps, ht => by
    obtain ⟨rs, hrs⟩ := h.inbound
    exact ⟨_, by rw [Term.value, hrs]; rfl, Covers.of_eq_nil (refs_texts (fun r => showInt r.port) rs)⟩
  | .inboundSources, ps, ht => by
    obtain ⟨rs, hrs⟩ := h.inbound
    refine ⟨_, by rw [Term.value, hrs]; rfl, Covers.of_eq_nil ?_⟩
    by_cases he : rs.isEmpty
    · simp [he, Value.refs]
    · simp only [he, Bool.false_eq_true, if_false]
      exact refs_texts (fun s => s) (sortedTexts (rs.map (·.cidr)))
  | .flag f, ps, ht => ⟨_, rfl, Covers.of_eq_nil rfl⟩
  | .label style suffix, ps, ht => ⟨_, rfl, Covers.of_eq_nil rfl⟩
  | .compactName limit suffix, ps, ht => ⟨_, rfl, Covers.of_eq_nil rfl⟩
  | .described lead, ps, ht => ⟨_, rfl, Covers.of_eq_nil rfl⟩
  | .tags suffix, ps, ht => by
    refine ⟨_, rfl, ?_⟩
    intro p hp
    simp [Draft.tags, Value.refs, Value.refsEntries] at hp

theorem Sees.pointsAll_sound (h : k.Sees G d hs) : ∀ {ts : List Term} {ps : List Key},
    k.pointsAll ts = some ps → ∃ vs, Term.valueAll d hs ts = .ok vs ∧
      Covers G d ps (Term.takesAll d hs ts) (Value.refsList vs)
  | [], ps, _ => ⟨[], rfl, Covers.of_eq_nil rfl⟩
  | t :: ts, ps, ht => by
    simp only [pointsAll, Option.bind_eq_bind, Option.bind_eq_some_iff, Option.some.injEq] at ht
    obtain ⟨ps1, h1, ps2, h2, rfl⟩ := ht
    obtain ⟨v, hv, hc⟩ := h.points_sound h1
    obtain ⟨vs, hvs, hcs⟩ := h.pointsAll_sound h2
    refine ⟨v :: vs, by rw [Term.valueAll, hv, hvs]; rfl, ?_⟩
    simp only [Term.takesAll, hv, Except.isOk, Except.toBool, if_true, Value.refsList]
    exact hc.append hcs

theorem Sees.pointsEntries_sound (h : k.Sees G d hs) : ∀ {kvs : List (String × Term)} {ps : List Key},
    k.pointsEntries kvs = some ps → ∃ vs, Term.valueEntries d hs kvs = .ok vs ∧
      Covers G d ps (Term.takesEntries d hs kvs) (Value.refsEntries vs)
  | [], ps, _ => ⟨[], rfl, Covers.of_eq_nil rfl⟩
  | (key, t) :: r, ps, ht => by
    simp only [pointsEntries, Option.bind_eq_bind, Option.bind_eq_some_iff, Option.some.injEq] at ht
    obtain ⟨ps1, h1, ps2, h2, rfl⟩ := ht
    obtain ⟨v, hv, hc⟩ := h.points_sound h1
    obtain ⟨vs, hvs, hcs⟩ := h.pointsEntries_sound h2
    refine ⟨(key, v) :: vs, by rw [Term.valueEntries, hv, hvs]; rfl, ?_⟩
    simp only [Term.takesEntries, hv, Except.isOk, Except.toBool, if_true, Value.refsEntries]
    exact hc.append hcs

/-- The entry of a table for a text that is a key of it, or else what stands in for it. -/
theorem Sees.pointsTable_sound (h : k.Sees G d hs) {key : String}
    {otherwise : Except TemplateFault Value} {fs : List String} {qs : List Key} :
    ∀ {table : List (String × Term)} {ps : List Key}, k.pointsEntries table = some ps →
      (key ∈ table.map (·.1) ∨ Settles G d qs fs otherwise) →
      Settles G d (ps ++ qs) (Term.takesEntry d hs key fs table)
        (Term.valueEntry d hs key otherwise table)
  | [], ps, ht, ho => by
    rcases ho with ho | ho
    · simp at ho
    · exact ho.mono (fun _ hm => by simp [hm]) (fun _ hf => hf)
  | (key', t) :: r, ps, ht, ho => by
    simp only [pointsEntries, Option.bind_eq_bind, Option.bind_eq_some_iff, Option.some.injEq] at ht
    obtain ⟨ps1, h1, ps2, h2, rfl⟩ := ht
    by_cases hk : key' = key
    · simp only [Term.takesEntry, Term.valueEntry, hk, if_true]
      exact (h.points_sound h1).mono (fun _ hm => by simp [hm]) (fun _ hf => hf)
    · simp only [Term.takesEntry, Term.valueEntry, hk, if_false]
      have ho' : key ∈ r.map (·.1) ∨ Settles G d qs fs otherwise := by
        refine ho.imp (fun hm => ?_) id
        simpa [Ne.symm hk] using hm
      exact (h.pointsTable_sound h2 ho').mono (fun _ hm => by simp at hm ⊢; tauto) (fun _ hf => hf)
end

end

end Sketch

end CloudScaffold
