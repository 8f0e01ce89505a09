import CloudScaffold.Hcl.Render
import CloudScaffold.Proofs.Hcl.Skeleton
/-!
# Keys and the lines of attributes

An attribute stands on a line of its own: its key, the equals sign and its value (`renderBody_keys`).
The key reads back from what is written for it, bare or as a literal (`Spells`), and adds no line break
to those of the value. One kind of key is the exception, which is why the theorem is an equivalence: a
name with a line break behind it (`EndsInBreak`) passes for a bare name, goes out as it is and parts its
line in two.
-/
namespace CloudScaffold.Hcl

/-! ## Bare names -/

/-- Letters, digits, low lines and hyphens of ASCII, the first of them no digit and no hyphen. -/
structure IsBare (cs : List Char) : Prop where
  nonempty : cs ≠ []
  chars : ∀ c ∈ cs, 'a' ≤ c ∧ c ≤ 'z' ∨ 'A' ≤ c ∧ c ≤ 'Z' ∨ '0' ≤ c ∧ c ≤ '9' ∨ c = '_' ∨ c = '-'
  first : ∀ c ∈ cs.head?, ¬ ('0' ≤ c ∧ c ≤ '9') ∧ c ≠ '-'

theorem startsIdentifier_iff {c : Char} :
    startsIdentifier c = true ↔ 'a' ≤ c ∧ c ≤ 'z' ∨ 'A' ≤ c ∧ c ≤ 'Z' ∨ c = '_' := by
  simp [startsIdentifier, Text.isAsciiLetter, Text.isAsciiLower, Text.isAsciiUpper, or_assoc]

theorem continuesIdentifier_iff {c : Char} : continuesIdentifier c = true ↔
    'a' ≤ c ∧ c ≤ 'z' ∨ 'A' ≤ c ∧ c ≤ 'Z' ∨ '0' ≤ c ∧ c ≤ '9' ∨ c = '_' ∨ c = '-' := by
  simp only [continuesIdentifier, Bool.or_eq_true, startsIdentifier_iff, Text.isAsciiDigit,
    Bool.and_eq_true, decide_eq_true_eq, beq_iff_eq]
  tauto

/-- What may start a name is what may go on in it, digits and the hyphen apart. -/
theorem startsIdentifier_iff_continues {c : Char} : startsIdentifier c = true ↔
    continuesIdentifier c = true ∧ ¬ ('0' ≤ c ∧ c ≤ '9') ∧ c ≠ '-' := by
  constructor
  · intro h
    refine ⟨by simp [continuesIdentifier, h], ?_, ?_⟩
    · rintro ⟨hlow, hhigh⟩
      rw [startsIdentifier_iff] at h
      simp only [Char.le_def, UInt32.le_iff_toNat_le] at h hlow hhigh
      rcases h with ⟨h, -⟩ | ⟨h, -⟩ | rfl
      · exact absurd (h.trans hhigh) (by decide)
      · exact absurd (h.trans hhigh) (by decide)
      · exact absurd hhigh (by decide)
    · rintro rfl
      exact absurd h (by decide)
  · rintro ⟨h, hdigit, hhyphen⟩
    rw [continuesIdentifier_iff] at h
    rw [startsIdentifier_iff]
    tauto

theorem isIdentifier_iff {cs : List Char} : isIdentifier cs = true ↔ IsBare cs := by
  cases cs with
  | nil => exact ⟨fun h => absurd h (by decide), fun h => absurd rfl h.nonempty⟩
  | cons c r =>
    rw [isIdentifier, Bool.and_eq_true, List.all_eq_true, startsIdentifier_iff_continues]
    constructor
    · rintro ⟨⟨hc, hfirst⟩, hr⟩
      refine ⟨List.cons_ne_nil _ _, fun d hd => continuesIdentifier_iff.1 ?_, by simpa using hfirst⟩
      rcases List.mem_cons.1 hd with rfl | hd
      · exact hc
      · exact hr d hd
    · intro h
      have hall : ∀ d ∈ c :: r, continuesIdentifier d = true :=
        fun d hd => continuesIdentifier_iff.2 (h.chars d hd)
      exact ⟨⟨hall c List.mem_cons_self, h.first c rfl⟩,
        fun d hd => hall d (List.mem_cons_of_mem c hd)⟩

theorem IsBare.not_mem {cs : List Char} (h : IsBare cs) : '\n' ∉ cs := by
  intro hn
  exact absurd (continuesIdentifier_iff.2 (h.chars _ hn)) (by decide)

/-- A name with a line break behind it. -/
def EndsInBreak (k : String) : Prop := ∃ cs, IsBare cs ∧ k.toList = cs ++ ['\n']

/-- A name passes for bare with a line break behind it. -/
theorem isIdentifier_dropLineEnd {k : String} :
    isIdentifier (dropLineEnd k.toList) = true ↔ IsBare k.toList ∨ EndsInBreak k := by
  rw [isIdentifier_iff]
  constructor
  · intro h
    rcases eq_dropLineEnd k.toList with hk | hk
    · exact .inl (hk ▸ h)
    · exact .inr ⟨_, h, hk⟩
  · rintro (h | ⟨cs, h, hk⟩)
    · have hlast : k.toList.getLast? ≠ some '\n' := fun hl => h.not_mem (List.mem_of_getLast? hl)
      rwa [dropLineEnd, if_neg hlast]
    · rwa [hk, dropLineEnd, if_pos List.getLast?_concat, List.dropLast_concat]

/-! ## Written keys -/

/-- The ways to write a key: as it is, if it is a bare name, or as a literal that reads as the key. -/
inductive Spells (k : String) : String → Prop
  | bare (h : IsBare k.toList) : Spells k k
  | quoted {body : List Char} (h : scanLiteral body = .closed k.toList []) :
    Spells k (.ofList ('"' :: body))

theorem spells_quote (k : String) : Spells k (quote k) :=
  .quoted (scan_escapeChars k.toList)

theorem not_mem_quote (k : String) : '\n' ∉ (quote k).toList := by
  obtain ⟨_, _, _, hbreaks⟩ := scan_quote k
  exact fun hn => (hbreaks _ hn).1 rfl

/-- A name with a line break behind it is no way to write a key. -/
theorem EndsInBreak.not_spells {k l : String} (h : EndsInBreak k) : ¬ Spells l k := by
  obtain ⟨cs, hcs, hk⟩ := h
  intro hspells
  cases hspells with
  | bare hl => exact hl.not_mem (by simp [hk])
  | @quoted body _ =>
    obtain ⟨c, r, rfl⟩ := List.exists_cons_of_ne_nil hcs.nonempty
    rw [String.toList_ofList] at hk
    obtain ⟨rfl, -⟩ := List.cons.inj hk
    exact absurd (continuesIdentifier_iff.2 (hcs.chars _ List.mem_cons_self)) (by decide)

/-- **A key reads back from what is written for it**, unless it is a name with a line break behind it.
That is also the only key which is written with a line break. -/
theorem objectKey_spells (k : String) : (Spells k (objectKey k) ↔ ¬ EndsInBreak k) ∧
    ('\n' ∉ (objectKey k).toList ↔ ¬ EndsInBreak k) := by
  unfold objectKey
  by_cases hk : EndsInBreak k
  · have hbreak : '\n' ∈ k.toList := by
      obtain ⟨cs, -, hk⟩ := hk
      simp [hk]
    rw [if_pos (isIdentifier_dropLineEnd.2 (.inr hk))]
    exact ⟨iff_of_false hk.not_spells (not_not.2 hk), iff_of_false (not_not.2 hbreak) (not_not.2 hk)⟩
  · by_cases hbare : IsBare k.toList
    · rw [if_pos (isIdentifier_dropLineEnd.2 (.inl hbare))]
      exact ⟨iff_of_true (.bare hbare) hk, iff_of_true hbare.not_mem hk⟩
    · rw [if_neg fun h => (isIdentifier_dropLineEnd.1 h).elim hbare hk]
      exact ⟨iff_of_true (spells_quote k) hk, iff_of_true (not_mem_quote k) hk⟩

/-! ## Lines -/

/-- Whether an entry with this value is an attribute: it is there, and no block and no list of blocks. -/
def isAttribute : Value → Bool
  | .null => false
  | v => !isBlocks v

section
variable {depth : Nat} {k t : String} {v : Value} {attrs : Attributes} {ls : List String}

theorem renderEntry_of_isAttribute (hv : isAttribute v = true) :
    renderEntry depth k v = renderValue depth v >>= fun t => .ok [.attr (objectKey k) t] := by
  cases v with
  | list xs => rw [renderEntry, if_neg (by simpa [isAttribute, isBlocks] using hv)]
  | null | block => cases hv
  | _ => rfl

/-- An attribute is a piece of the body. -/
theorem attr_mem_of_renderPieces {kvs : List (String × Value)} {ps : List Piece}
    (h : renderPieces depth kvs = .ok ps) (hkv : (k, v) ∈ kvs) (hv : isAttribute v = true) :
    ∃ t, renderValue depth v = .ok t ∧ .attr (objectKey k) t ∈ ps := by
  induction kvs generalizing ps with
  | nil => cases hkv
  | cons kv r ih =>
    obtain ⟨k', v'⟩ := kv
    simp only [renderPieces_cons, bind_eq_ok] at h
    obtain ⟨here, hhere, rest, hrest, h⟩ := h
    cases h
    rcases List.mem_cons.1 hkv with heq | hkv
    · cases heq
      rw [renderEntry_of_isAttribute hv, bind_eq_ok] at hhere
      obtain ⟨t, ht, hhere⟩ := hhere
      cases hhere
      exact ⟨t, ht, List.mem_cons_self⟩
    · obtain ⟨t, ht, hmem⟩ := ih hrest hkv
      exact ⟨t, ht, List.mem_append_right here hmem⟩

/-- An attribute stands in a run. -/
theorem run_mem_sections {ps : List Piece} (h : .attr k t ∈ ps) :
    ∃ kvs, .run kvs ∈ sections ps ∧ (k, t) ∈ kvs := by
  induction ps with
  | nil => cases h
  | cons p ps ih =>
    cases p with
    | block ls =>
      obtain ⟨kvs, hrun, hmem⟩ := ih (by simpa using h)
      exact ⟨kvs, List.mem_cons_of_mem _ hrun, hmem⟩
    | attr k' t' =>
      -- the run behind this attribute takes it in; behind a block or nothing a new one starts
      rcases List.mem_cons.1 h with heq | h
      · cases heq
        rw [sections]
        split
        · exact ⟨_, List.mem_cons_self, List.mem_cons_self⟩
        · exact ⟨_, List.mem_cons_self, List.mem_cons_self⟩
      · obtain ⟨kvs, hrun, hmem⟩ := ih h
        rw [sections]
        split
        · rename_i kvs' s hs
          rw [hs] at hrun
          rcases List.mem_cons.1 hrun with heq | hrun
          · cases heq
            exact ⟨_, List.mem_cons_self, List.mem_cons_of_mem _ hmem⟩
          · exact ⟨kvs, List.mem_cons_of_mem _ hrun, hmem⟩
        · exact ⟨kvs, List.mem_cons_of_mem _ hrun, hmem⟩

/-- An attribute has its line in the body. -/
theorem attrLine_mem_layout {ps : List Piece} (h : .attr k t ∈ ps) :
    ∃ width, attrLine depth width (k, t) ∈ layout depth ps := by
  obtain ⟨kvs, hrun, hmem⟩ := run_mem_sections h
  refine ⟨keyWidth kvs, mem_intercalate (List.mem_map_of_mem hrun) ?_⟩
  exact List.mem_map_of_mem hmem

/-- A line breaks where its key or its value does. -/
theorem not_mem_attrLine {width : Nat} : '\n' ∉ (attrLine depth width (k, t)).toList ↔
    '\n' ∉ k.toList ∧ '\n' ∉ t.toList := by
  simp [attrLine, padKey, indent]

/-- **Keys and lines.** Each attribute of a body has its line, with the key as it is written and the value
behind it. The key reads back, and the line breaks only where the value does, unless the key is a name
with a line break behind it. -/
theorem renderBody_keys (h : renderBody depth attrs = .ok ls) :
    ∀ kv ∈ attrs, isAttribute kv.2 = true →
      ∃ t width, renderValue depth kv.2 = .ok t ∧
        attrLine depth width (objectKey kv.1, t) ∈ ls ∧
        (Spells kv.1 (objectKey kv.1) ↔ ¬ EndsInBreak kv.1) ∧
        ('\n' ∉ (attrLine depth width (objectKey kv.1, t)).toList ↔
          ¬ EndsInBreak kv.1 ∧ '\n' ∉ t.toList) := by
  rintro ⟨k, v⟩ hkv hv
  obtain ⟨ps, hps, hls⟩ := bind_eq_ok.1 h
  cases hls
  obtain ⟨t, ht, hmem⟩ := attr_mem_of_renderPieces hps hkv hv
  obtain ⟨width, hline⟩ := attrLine_mem_layout hmem
  obtain ⟨hspells, hbreaks⟩ := objectKey_spells k
  exact ⟨t, width, ht, hline, hspells, by rw [not_mem_attrLine, hbreaks]⟩

end

/-- A key with a line break within it is quoted, and so keeps to its line. -/
theorem renderBody_keys_quoted :
    let attrs : Attributes := [("ok", .bool true), ("b", .block []), ("a\nb", .str "x\ny")]
    ∃ ls, renderBody 1 attrs = .ok ls ∧ ∃ t width, renderValue 1 (.str "x\ny") = .ok t ∧
      attrLine 1 width (objectKey "a\nb", t) ∈ ls ∧ Spells "a\nb" (objectKey "a\nb") ∧
      '\n' ∉ (attrLine 1 width (objectKey "a\nb", t)).toList := by
  intro attrs
  have hbreak : ¬ EndsInBreak "a\nb" := by
    rintro ⟨cs, hcs, heq⟩
    have hlast := congrArg List.getLast? heq
    rw [List.getLast?_concat] at hlast
    exact absurd hlast (by decide)
  obtain ⟨ls, hls⟩ : ∃ ls, renderBody 1 attrs = .ok ls := ⟨_, rfl⟩
  obtain ⟨t, width, ht, hline, hspells, hbreaks⟩ :=
    renderBody_keys hls ("a\nb", .str "x\ny") (by simp [attrs]) rfl
  refine ⟨ls, hls, t, width, ht, hline, hspells.2 hbreak, hbreaks.2 ⟨hbreak, ?_⟩⟩
  cases ht
  exact not_mem_quote _

/-- A name with a line break behind it goes out as it is, and its attribute takes two lines. -/
theorem renderBody_break :
    renderBody 0 [("a\n", .bool true)] = .ok ["a\n = true"] ∧ ¬ Spells "a\n" "a\n" := by
  refine ⟨rfl, EndsInBreak.not_spells ⟨['a'], isIdentifier_iff.1 (by decide), by decide⟩⟩

end CloudScaffold.Hcl
