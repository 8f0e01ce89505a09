import CloudScaffold.Proofs.Number.Fraction
import CloudScaffold.Proofs.Yaml.Numbers
import CloudScaffold.Yaml.Atom
/-!
# Numbers that keep their spelling

A plain scalar reads back if what it says is written as the text that it was (`ReadsBack`). A text that
looks like nothing else always does (`readsBack_of_str`). A number does exactly if it is spelled as it
is written (`readsBack_iff`), which leaves one spelling for each number (`KeepsSpelling`): lost are bases,
low lines, colons and capital letters (`KeepsSpelling.isNumberChar`), and zeros at the end of a fraction
(`KeepsSpelling.fraction`).
-/
namespace CloudScaffold.Yaml

open Number Text

section
variable {n : Int} {m : Nat} {cs : List Char} {text : String}

/-! ## Tags of numbers -/

theorem dropLastBreak_of_not_mem (h : '\n' ∉ cs) : dropLastBreak cs = cs := by
  rw [dropLastBreak, if_neg]
  rintro ⟨-, hlast⟩
  exact h (List.mem_of_getLast? hlast)

/-- The tag of a text of one line is that of the first form that it has. -/
theorem tagOfPlain_ofChars (h : '\n' ∉ cs) : tagOfPlain (.ofChars cs) =
    match forms.find? fun f => f.2 cs with
    | some f => f.1
    | none => .str := by
  have hchars : dropLastBreak (Points.ofChars cs).chars = cs := by
    rw [Points.chars_ofChars, dropLastBreak_of_not_mem h]
  show (match forms.find? fun f => f.2 (dropLastBreak (Points.ofChars cs).chars) with
    | some f => f.1
    | none => .str) = _
  rw [hchars]

/-- A text has the form of its tag. -/
theorem hasForm_of_tag {tag : Tag} {p : List Char → Bool} (hline : '\n' ∉ cs) (h : tagOfPlain (.ofChars cs) = tag)
    (hne : tag ≠ .str) (honly : ∀ f ∈ forms, f.1 = tag → f.2 = p) : p cs = true := by
  rw [tagOfPlain_ofChars hline] at h
  split at h
  · next f hf =>
    have hform := List.find?_some hf
    rwa [honly f (List.mem_of_find?_eq_some hf) h] at hform
  · exact absurd h.symm hne

theorem not_isNumber_of_isBoolean (h : isBoolean cs = true) : isNumber cs = false := by
  have hwords : ∀ w ∈ ["yes", "Yes", "YES", "no", "No", "NO", "true", "True", "TRUE", "false", "False", "FALSE",
   "on", "On", "ON", "off", "Off", "OFF"], isNumber w.toList = false := by decide
  have hcs := hwords _ (List.contains_iff_mem.1 h)
  rwa [String.toList_ofList] at hcs

/-- A decimal counts before a whole number. -/
theorem tagOfPlain_of_isNumber (hline : '\n' ∉ cs) (h : isNumber cs = true) :
    tagOfPlain (.ofChars cs) = if isFloat cs then .float else .int := by
  have hbool : isBoolean cs = false := by
    rw [← Bool.not_eq_true]
    intro hbool
    rw [not_isNumber_of_isBoolean hbool] at h
    cases h
  rw [tagOfPlain_ofChars hline]
  by_cases hfloat : isFloat cs = true
  · simp [forms, hbool, hfloat]
  · have hint : isInt cs = true := by simpa [isNumber, hfloat] using h
    simp [forms, hbool, hfloat, hint]

theorem isNumber_of_tag (hline : '\n' ∉ cs)
    (h : tagOfPlain (.ofChars cs) = .int ∨ tagOfPlain (.ofChars cs) = .float) : isNumber cs = true := by
  rcases h with h | h
  · have hint : isInt cs = true := hasForm_of_tag hline h (by simp) (by simp [forms, indicatorTag])
    rw [isNumber, hint, Bool.true_or]
  · have hfloat : isFloat cs = true := hasForm_of_tag hline h (by simp) (by simp [forms, indicatorTag])
    rw [isNumber, hfloat, Bool.or_true]

/-! ## Whole numbers -/

theorem chars_toDigits {d : Char} (h : d ∈ Nat.toDigits 10 m) : d ≠ '_' ∧ d ≠ '.' ∧ d ≠ ':' ∧ d ≠ '-' ∧ d ≠ '+' := by
  have hdigit : d.isDigit = true := isDigit_of_mem_toDigits h
  refine ⟨?_, ?_, ?_, ?_, ?_⟩ <;> · rintro rfl; cases hdigit

theorem point_not_mem_showInt (n : Int) : '.' ∉ (showInt n).toList := by
  have hdigits : '.' ∉ Nat.toDigits 10 n.natAbs := fun h => (chars_toDigits h).2.1 rfl
  rw [toList_showInt]
  split
  · simpa using hdigits
  · exact hdigits

/-- A text without a point has no form of decimals. -/
theorem point_mem_of_isFloat (h : isFloat cs = true) : '.' ∈ cs := by
  have hsub : ∀ c ∈ dropSign cs, c ∈ cs := by
    rcases dropSign_cases cs with hcs | ⟨s, -, hcs⟩
    · rw [hcs]
      exact fun c hc => hc
    · intro c hc
      rw [hcs]
      exact List.mem_cons_of_mem s hc
  simp only [isFloat] at h
  split at h
  · next hinf =>
    have hwords : ∀ w ∈ [".inf", ".Inf", ".INF"], '.' ∈ w.toList := by decide
    have hmem := hwords _ (List.contains_iff_mem.1 hinf)
    rw [String.toList_ofList] at hmem
    exact hsub '.' hmem
  · split at h
    · next hnan =>
      have hwords : ∀ w ∈ [".nan", ".NaN", ".NAN"], '.' ∈ w.toList := by decide
      have hmem := hwords _ (List.contains_iff_mem.1 hnan)
      rwa [String.toList_ofList] at hmem
    · split at h
      · cases h
      · next whole r hcut =>
        obtain ⟨-, hpoint⟩ := cutAt?_eq_some_iff.1 hcut
        exact hsub '.' (hpoint ▸ by simp)

theorem isFloat_showInt (n : Int) : isFloat (showInt n).toList = false := by
  rw [← Bool.not_eq_true]
  exact fun h => point_not_mem_showInt n (point_mem_of_isFloat h)

/-- The digits of a number are read as it was. -/
theorem unsignedOf_toDigits (h : m < pow10 digitLimit) : unsignedOf (.ofChars (Nat.toDigits 10 m)) = .ok m := by
  by_cases hm : m = 0
  · rw [hm]
    rfl
  · obtain ⟨d, r, hd, -, hne⟩ := toDigits_first hm
    have hcolon : (Nat.toDigits 10 m).contains ':' = false := by
      rw [← Bool.not_eq_true, List.contains_iff_mem]
      exact fun hmem => (chars_toDigits hmem).2.2.1 rfl
    have hread : wholeOf 10 (.ofChars (Nat.toDigits 10 m)) = .ok m := by
      have hint : readIntIn 10 (.ofList (Nat.toDigits 10 m)) = .ok m := readInt_toDigits h
      rw [wholeOf, Points.chars_ofChars, hint]
    unfold unsignedOf
    rw [Points.chars_ofChars]
    split
    · next h => exact absurd h Nat.toDigits_ne_nil
    · next h => exact absurd (List.cons.inj (hd.symm.trans h)).1 hne
    · next h => exact absurd (List.cons.inj (hd.symm.trans h)).1 hne
    · next h => exact absurd (List.cons.inj (hd.symm.trans h)).1 hne
    · next h => exact absurd (List.cons.inj (hd.symm.trans h)).1 hne
    · rw [hcolon, if_neg Bool.false_ne_true, hread]

theorem withoutLows_ofChars (h : '_' ∉ cs) : withoutLows (.ofChars cs) = .ofChars cs := by
  refine List.filter_eq_self.2 fun p hp => ?_
  obtain ⟨c, hc, rfl⟩ := List.mem_map.1 hp
  have hne : c.toNat ≠ '_'.toNat := fun heq => h (Char.toNat_inj.1 heq ▸ hc)
  simpa using hne

/-- A written whole number is read as it was. -/
theorem intOf_showInt (h : n.natAbs < pow10 digitLimit) : intOf (.ofString (showInt n)) = .ok (.int n) := by
  have hlow : '_' ∉ Nat.toDigits 10 n.natAbs := fun hmem => (chars_toDigits hmem).1 rfl
  have hread := unsignedOf_toDigits h
  rw [Points.ofString, toList_showInt]
  by_cases hn : n < 0
  · have hsign : takeSign (.ofChars ('-' :: Nat.toDigits 10 n.natAbs)) =
        .ok (true, .ofChars (Nat.toDigits 10 n.natAbs)) := by
      simp only [takeSign, Points.chars_ofChars]
      rfl
    have habs : -(n.natAbs : Int) = n := by omega
    rw [if_pos hn, intOf, withoutLows_ofChars (by simp [hlow]), hsign]
    simp only [hread, bind, Except.bind, if_true]
    rw [habs]
  · have hsign : takeSign (.ofChars (Nat.toDigits 10 n.natAbs)) =
        .ok (false, .ofChars (Nat.toDigits 10 n.natAbs)) := by
      obtain ⟨d, r, hd⟩ := List.exists_cons_of_ne_nil (Nat.toDigits_ne_nil (n := n.natAbs) (b := 10))
      obtain ⟨-, -, -, hminus, hplus⟩ := chars_toDigits (hd ▸ List.mem_cons_self : d ∈ Nat.toDigits 10 n.natAbs)
      rw [hd, takeSign, Points.chars_ofChars]
      split
      · next h => cases h
      · next h => exact absurd (List.cons.inj h).1 hminus
      · next h => exact absurd (List.cons.inj h).1 hplus
      · rfl
    have habs : (n.natAbs : Int) = n := by omega
    rw [if_neg hn, intOf, withoutLows_ofChars hlow, hsign]
    simp only [hread, bind, Except.bind, Bool.false_eq_true, if_false]
    rw [habs]

/-! ## Spellings that are kept -/

/-- A plain scalar of this text is written as it stands, once it was read. -/
def ReadsBack (text : String) : Prop :=
  ∃ node a, Atom.ofText (tagOfPlain (.ofString text)) node (.ofString text) = .ok a ∧ a.write = .ok text

/-- A text that is how its number is written: a whole number up to the limit of digits, or a decimal. -/
inductive KeepsSpelling : String → Prop
  | whole (n : Int) (h : n.natAbs < pow10 digitLimit) : KeepsSpelling (showInt n)
  | decimal {text : String} {node : NodeId} {x : Binary64} (hform : isFloat text.toList = true)
    (hread : floatOf node (.ofString text) = .ok (.float x)) (hwrite : x.text = text) : KeepsSpelling text

theorem exists_int_of_intOf {ps : Points} {a : Atom} (h : intOf ps = .ok a) : ∃ n, a = .int n := by
  simp only [intOf, bind, Except.bind] at h
  split at h
  · cases h
  · split at h
    · cases h
    · cases h
      exact ⟨_, rfl⟩

/-- A decimal is a number, or none at all. -/
theorem float_or_nan_of_floatOf {node : NodeId} {ps : Points} {a : Atom} (h : floatOf node ps = .ok a) :
    (∃ x, a = .float x) ∨ ∃ m, a = .nan m := by
  simp only [floatOf, bind, Except.bind] at h
  split at h
  · cases h
  · split at h
    · cases h
    · split at h
      · cases h
        exact .inr ⟨_, rfl⟩
      · cases h
        exact .inl ⟨_, rfl⟩

/-- To write what a text says, the number of its node does not matter. -/
theorem exists_ofText {tag : Tag} {node other : NodeId} {ps : Points} {a : Atom}
    (h : Atom.ofText tag node ps = .ok a) : ∃ b, Atom.ofText tag other ps = .ok b ∧ b.write = a.write := by
  by_cases htag : tag = .float
  · subst htag
    have h : floatOf node ps = .ok a := h
    show ∃ b, floatOf other ps = .ok b ∧ b.write = a.write
    simp only [floatOf, bind, Except.bind] at h ⊢
    split at h
    · cases h
    · split at h
      · cases h
      · split at h
        · cases h
          exact ⟨_, rfl, rfl⟩
        · cases h
          exact ⟨_, rfl, rfl⟩
  · refine ⟨a, ?_, rfl⟩
    cases tag <;> first | exact h | exact absurd rfl htag

theorem readsBack_iff_at (node : NodeId) : ReadsBack text ↔
    ∃ a, Atom.ofText (tagOfPlain (.ofString text)) node (.ofString text) = .ok a ∧ a.write = .ok text := by
  constructor
  · rintro ⟨other, a, hread, hwrite⟩
    obtain ⟨b, hb, hsame⟩ : ∃ b, Atom.ofText (tagOfPlain (.ofString text)) node (.ofString text) = .ok b ∧
      b.write = a.write := exists_ofText hread
    exact ⟨b, hb, hsame.trans hwrite⟩
  · rintro ⟨a, hread, hwrite⟩
    exact ⟨node, a, hread, hwrite⟩

theorem tagOfPlain_number (hline : '\n' ∉ text.toList) (h : isNumber text.toList = true) :
    tagOfPlain (.ofString text) = if isFloat text.toList then .float else .int :=
  tagOfPlain_of_isNumber hline h

theorem newline_not_mem_of_isNumber (h : isNumber cs = true) : '\n' ∉ cs := fun hmem =>
  absurd ((isWord_of_isNumber h).2 '\n' hmem) (by decide)

/-- **A number reads back exactly if it is written as it is spelled.** -/
theorem readsBack_iff (h : isNumber text.toList = true) : ReadsBack text ↔ KeepsSpelling text := by
  have htag := tagOfPlain_number (newline_not_mem_of_isNumber h) h
  constructor
  · rintro ⟨node, a, hread, hwrite⟩
    rw [htag] at hread
    by_cases hfloat : isFloat text.toList = true
    · rw [if_pos hfloat] at hread
      rcases float_or_nan_of_floatOf hread with ⟨x, rfl⟩ | ⟨m, rfl⟩
      · exact .decimal hfloat hread (Except.ok.inj hwrite)
      · obtain rfl : "nan" = text := Except.ok.inj hwrite
        exact absurd hfloat (by decide)
    · rw [if_neg hfloat] at hread
      obtain ⟨n, rfl⟩ := exists_int_of_intOf hread
      have hshow : writeInt n = .ok text := hwrite
      unfold writeInt at hshow
      split at hshow
      · cases hshow
      · next hlimit =>
        cases hshow
        exact .whole n (Nat.not_le.1 hlimit)
  · intro hkeeps
    cases hkeeps with
    | whole n hlimit =>
      have hwrite : (Atom.int n).write = .ok (showInt n) := by
        rw [Atom.write, Atom.literal]
        · exact writeInt_eq hlimit
        all_goals simp
      refine ⟨0, .int n, ?_, hwrite⟩
      rw [htag, if_neg (by simp [isFloat_showInt])]
      exact intOf_showInt hlimit
    | @decimal _ node x hform hread hwrite =>
      refine ⟨node, .float x, ?_, congrArg Except.ok hwrite⟩
      rw [htag, if_pos hform]
      exact hread

/-- A plain text that looks like nothing else reads back. -/
theorem readsBack_of_str (h : tagOfPlain (.ofString text) = .str) : ReadsBack text := by
  exact ⟨0, .str (.ofString text), by rw [h]; rfl, congrArg Except.ok (Points.toString_ofString text)⟩

/-! ## Spellings that are lost -/

/-- Low lines, colons, the marks of bases and capital letters are lost. -/
theorem KeepsSpelling.isNumberChar (h : KeepsSpelling text) : ∀ c ∈ text.toList, isNumberChar c = true := by
  cases h with
  | whole n => exact isNumberChar_showInt n
  | @decimal _ _ x _ _ hwrite =>
    rw [← hwrite]
    exact x.isNumberChar_text

/-- A zero at the end of a fraction is lost. -/
theorem KeepsSpelling.fraction {a r : List Char} (h : KeepsSpelling text)
    (hcut : cutAt? '.' text.toList = some (a, r)) (he : 'e' ∉ text.toList) :
    r = ['0'] ∨ r.getLast? ≠ some '0' := by
  cases h with
  | whole n =>
    obtain ⟨-, hpoint⟩ := cutAt?_eq_some_iff.1 hcut
    exact absurd (hpoint ▸ by simp) (point_not_mem_showInt n)
  | @decimal _ _ x _ _ hwrite =>
    rw [← hwrite] at hcut he
    exact Binary64.fraction_text hcut he

end

end CloudScaffold.Yaml
