import CloudScaffold.Catalog.Basic
import CloudScaffold.Command.Values
import CloudScaffold.Proofs.Yaml.Saying
import CloudScaffold.Proofs.Yaml.Spelling
/-!
# Values typed and values from a file

A value that is typed is the text behind its name (`parseAssignments_field`). In a file a number is read
as what it says and written again as a text, so the two ways agree on a field and a number exactly if the
number is spelled as it is written, and the name as well (`loadValues_spelled_iff`). They part where the
spelling matters and the number does not: a version `1.10` becomes `1.1` (`loadValues_version`), as every
decimal that ends with an unneeded zero is cut short (`loadValues_zero_lost`).

The names in question are those that can stand in front of an equals sign and of a colon alike
(`IsFieldName`); every field of the catalog has one (`shipped_isFieldName`).
-/
namespace CloudScaffold.Command

open Text Number Yaml

/-- A name of one word, which can be typed in front of its value and stands in front of a colon as it is. -/
structure IsFieldName (name : String) : Prop where
  ne : name.toList ≠ []
  /-- The mark of assignments is no part of it, nor are blanks. -/
  chars : ∀ c ∈ name.toList, isPrintable c = true ∧ isBlank c = false ∧ c ≠ '='
  first : ∀ c ∈ name.toList.head?, c ∉ firmIndicators ∧ c ≠ orderMark
  short : name.toList.length ≤ keyReach

section
variable {name text : String} {c : Char} {cs : List Char}

theorem isGap_of_not_isBlank (hprint : isPrintable c = true) (h : isBlank c = false) : isGap c = false := by
  have hgaps : (['\n', '\r', '\u0085', '\u2028', '\u2029', endChar, ' ', '\t'].all fun g =>
      !isPrintable g || isBlank g) = true := by decide
  rw [← Bool.not_eq_true]
  intro hgap
  have hmem : c ∈ ['\n', '\r', '\u0085', '\u2028', '\u2029', endChar, ' ', '\t'] := by
    simpa [isGap, isBreakOrEnd, isBreak, or_assoc] using hgap
  have hc := List.all_eq_true.1 hgaps c hmem
  rw [hprint, h] at hc
  cases hc

theorem IsFieldName.isWord (h : IsFieldName name) (r : List Char) : IsWord name.toList (':' :: ' ' :: r) where
  ne := h.ne
  gapless c hc := isGap_of_not_isBlank (h.chars c hc).1 (h.chars c hc).2.1
  first c hc := (h.first c hc).1
  ends := .colon r
  last hr := by cases hr

/-- The name is no key of a default value. -/
theorem IsFieldName.tag_ne_value (h : IsFieldName name) : tagOfPlain (.ofChars name.toList) ≠ .value := by
  have hline : '\n' ∉ name.toList := fun hmem => absurd (h.chars '\n' hmem).2.1 (by decide)
  intro htag
  have hform := hasForm_of_tag (p := fun cs => cs == ['=']) hline htag (by simp) (by simp [forms, indicatorTag])
  have hcs : name.toList = ['='] := by simpa using hform
  exact absurd rfl (h.chars '=' (by simp [hcs])).2.2

/-- Letters, digits and low lines make such a name. -/
theorem IsFieldName.of_formChars (hne : name.toList ≠ []) (hshort : name.toList.length ≤ keyReach)
    (hall : name.toList.all isFormChar = true) : IsFieldName name := by
  have h := List.all_eq_true.1 hall
  have hspec {c : Char} (hc : isFormChar c = true) : isBlank c = false ∧ c ≠ '=' ∧ c ≠ orderMark :=
    char_of_code (fun c => isFormChar c = true → isBlank c = false ∧ c ≠ '=' ∧ c ≠ orderMark)
      (by decide) (isFormChar_lt hc) hc
  refine ⟨hne, fun c hc => ?_, fun c hc => ?_, hshort⟩
  · exact ⟨(isFormChar_spec (h c hc)).1, (hspec (h c hc)).1, (hspec (h c hc)).2.1⟩
  · have hmem := List.mem_of_head? hc
    exact ⟨(isFormChar_spec (h c hmem)).2.2, (hspec (h c hmem)).2.2⟩

/-- Every field of the catalog has such a name. -/
theorem shipped_isFieldName : ∀ p ∈ Catalog.shipped, ∀ s ∈ p.services, ∀ f ∈ s.fields,
    IsFieldName f.name := by
  have hchars : ∀ p ∈ Catalog.shipped, ∀ s ∈ p.services, ∀ f ∈ s.fields, f.name.toList ≠ [] ∧
      f.name.toList.length ≤ keyReach ∧ f.name.toList.all isFormChar = true := by
    decide +kernel
  intro p hp s hs f hf
  obtain ⟨hne, hshort, h⟩ := hchars p hp s hs f hf
  exact .of_formChars hne hshort h

/-! ## Typed values -/

theorem parseAssignment_field (h : IsFieldName name) :
    parseAssignment (name ++ "=" ++ text) = .ok (name, .str text) := by
  have hcut : cutAt? '=' (name ++ "=" ++ text).toList = some (name.toList, text.toList) :=
    cutAt?_eq_some_iff.2 ⟨fun hmem => (h.chars '=' hmem).2.2 rfl, by simp⟩
  have htrim : trimChars name.toList = name.toList :=
    trimChars_of_ends (fun c hc => (h.chars c (List.mem_of_head? hc)).2.1)
      fun c hc => (h.chars c (List.mem_of_getLast? hc)).2.1
  have hne : name.toList.isEmpty = false := by simpa using h.ne
  rw [parseAssignment, hcut]
  simp only [htrim, hne, Bool.false_eq_true, if_false, String.ofList_toList]

theorem parseAssignments_field (h : IsFieldName name) :
    parseAssignments [name ++ "=" ++ text] = .ok [(name, .str text)] := by
  simp only [parseAssignments, List.mapM_cons, parseAssignment_field h]
  rfl

/-! ## Values of a file -/

theorem plainBreaks_of_not_mem : ∀ {cs : List Char}, '\r' ∉ cs → plainBreaks cs = cs
  | [], _ => rfl
  | c :: r, h => by
    have hr := plainBreaks_of_not_mem fun hmem => h (List.mem_cons_of_mem c hmem)
    rw [plainBreaks, hr]
    · rintro _ rfl
      simp at h
    · rintro rfl
      simp at h

/-- The line of a field and a number says what its name and its number say. -/
theorem ofText_line (hname : IsFieldName name) (hnumber : isNumber text.toList = true) :
    Data.ofText (.ofList (plainBreaks (name ++ ": " ++ text).toList)) =
      (lineEntry name.toList text.toList).map fun e =>
        { root := .shared 0, collections := #[.map [(e.1, .atom e.2)], .list [], .list []] } := by
  obtain ⟨hword, hchars⟩ := isWord_of_isNumber hnumber
  have hline : (name ++ ": " ++ text).toList = name.toList ++ ':' :: ' ' :: text.toList := by simp
  have hprint : ∀ c ∈ (name ++ ": " ++ text).toList, isPrintable c = true ∧ c ≠ '\r' := by
    rw [hline]
    intro c hc
    simp only [List.mem_append, List.mem_cons] at hc
    rcases hc with hc | rfl | rfl | hc
    · obtain ⟨hprint, hblank, -⟩ := hname.chars c hc
      exact ⟨hprint, fun h => by rw [h] at hblank; exact absurd hblank (by decide)⟩
    · decide
    · decide
    · obtain ⟨hprint, hgap, -⟩ := isWord_char (hchars c hc)
      exact ⟨hprint, fun h => by rw [h] at hgap; exact absurd hgap (by decide)⟩
  have hmark : name.toList.head? ≠ some orderMark := fun h => (hname.first orderMark h).2 rfl
  have hdocument := Yaml.ofText_line hline (List.all_eq_true.2 fun c hc => (hprint c hc).1) (hname.isWord _)
    hmark hname.short hword
  have hread : Data.ofText (name ++ ": " ++ text) =
      Data.ofDocument { nodes := lineNodes [(1, 2)] name.toList text.toList, root := 0 } := by
    simp only [Data.ofText, hdocument, bind, Except.bind]
  rw [plainBreaks_of_not_mem fun hmem => (hprint '\r' hmem).2 rfl, String.ofList_toList, hread,
    ofDocument_line hname.tag_ne_value]

/-- A number gives a field its text. -/
theorem valueOf_number {d : Data} {v : Atom} (hnumber : isNumber text.toList = true)
    (hv : Atom.ofText (tagOfPlain (.ofString text)) 2 (.ofString text) = .ok v) :
    valueOf d (.atom v) = v.write.map .str := by
  rw [tagOfPlain_number (newline_not_mem_of_isNumber hnumber) hnumber] at hv
  split at hv
  · rcases float_or_nan_of_floatOf hv with ⟨x, rfl⟩ | ⟨m, rfl⟩ <;> rfl
  · obtain ⟨n, rfl⟩ := exists_int_of_intOf hv
    rfl

theorem loadValues_error {e : Fault} (hname : IsFieldName name) (hnumber : isNumber text.toList = true)
    (he : lineEntry name.toList text.toList = .error e) :
    loadValues (name ++ ": " ++ text) = .error (.document e) := by
  have hline := ofText_line hname hnumber
  rw [he] at hline
  simp only [loadValues, hline]
  rfl

/-- A line gives what its number is written as to what its name is written as. -/
theorem loadValues_entry {k v : Atom} (hname : IsFieldName name) (hnumber : isNumber text.toList = true)
    (he : lineEntry name.toList text.toList = .ok (k, v)) : loadValues (name ++ ": " ++ text) =
      (do .ok [(← k.write, .str (← v.write))] : Except NumberError Attributes).mapError
        fun e => .document (.number e) := by
  let d : Data := { root := .shared 0, collections := #[.map [(k, .atom v)], .list [], .list []] }
  have hline := ofText_line hname hnumber
  rw [he] at hline
  have hload : loadValues (name ++ ": " ++ text) =
      (([(k, .atom v)].mapM (entryOf d)).map Attributes.ofEntries).mapError
        fun e => .document (.number e) := by
    simp only [loadValues, hline]
    rfl
  have hentry : entryOf d (k, .atom v) = (do .ok (← k.write, ← v.write.map .str)) := by
    rw [entryOf, valueOf_number hnumber (lineEntry_eq_ok_iff.1 he).2]
  rw [hload, List.mapM_cons, List.mapM_nil, hentry]
  cases k.write <;> cases v.write <;> rfl

/-- A line gives its number to its name exactly if both are written as they stand. -/
theorem loadValues_entry_iff {k v : Atom} (hname : IsFieldName name) (hnumber : isNumber text.toList = true)
    (he : lineEntry name.toList text.toList = .ok (k, v)) :
    loadValues (name ++ ": " ++ text) = .ok [(name, .str text)] ↔ k.write = .ok name ∧ v.write = .ok text := by
  rw [loadValues_entry hname hnumber he]
  cases k.write <;> cases v.write <;> simp [bind, Except.bind, Except.mapError]

/-- A line gives its number to its name exactly if the name reads back and the number keeps its spelling. -/
theorem loadValues_number_iff (hname : IsFieldName name) (hnumber : isNumber text.toList = true) :
    loadValues (name ++ ": " ++ text) = .ok [(name, .str text)] ↔ ReadsBack name ∧ KeepsSpelling text := by
  rw [← readsBack_iff hnumber, readsBack_iff_at 1, readsBack_iff_at 2]
  constructor
  · intro h
    cases he : lineEntry name.toList text.toList with
    | error e =>
      rw [loadValues_error hname hnumber he] at h
      cases h
    | ok e =>
      obtain ⟨hk, hv⟩ := lineEntry_eq_ok_iff.1 he
      obtain ⟨hkwrite, hvwrite⟩ := (loadValues_entry_iff hname hnumber he).1 h
      exact ⟨⟨e.1, hk, hkwrite⟩, e.2, hv, hvwrite⟩
  · rintro ⟨⟨k, hk, hkwrite⟩, v, hv, hvwrite⟩
    exact (loadValues_entry_iff hname hnumber (lineEntry_eq_ok_iff.2 ⟨hk, hv⟩)).2 ⟨hkwrite, hvwrite⟩

/-- **No version that ends with an unneeded zero comes through a file as it was written.** -/
theorem loadValues_zero_lost {a r : List Char} (hname : IsFieldName name)
    (hnumber : isNumber text.toList = true) (hcut : cutAt? '.' text.toList = some (a, r))
    (hzero : r.getLast? = some '0') (hne : r ≠ ['0']) (he : 'e' ∉ text.toList) :
    loadValues (name ++ ": " ++ text) ≠ .ok [(name, .str text)] := by
  rw [Ne, loadValues_number_iff hname hnumber]
  rintro ⟨-, hkeeps⟩
  exact (hkeeps.fraction hcut he).elim hne fun h => h hzero

/-- **A number in a file is what it is when typed exactly if it is spelled as it would be written.** Take
the name of a field and a text of one line that looks like a whole number or a decimal. Typed behind the
name, the text is the value. In a file it is read as a number, and the number is written again: so the
value is the text exactly if that is how the number is written, and the name is written as it stands. -/
theorem loadValues_spelled_iff (hname : IsFieldName name) (hline : '\n' ∉ text.toList)
    (hnumber : tagOfPlain (.ofString text) = .int ∨ tagOfPlain (.ofString text) = .float) :
    parseAssignments [name ++ "=" ++ text] = .ok [(name, .str text)] ∧
      (loadValues (name ++ ": " ++ text) = .ok [(name, .str text)] ↔ ReadsBack name ∧ KeepsSpelling text) :=
  ⟨parseAssignments_field hname, loadValues_number_iff hname (isNumber_of_tag hline hnumber)⟩

end

theorem loadValues_spelled_iff_ports :
    IsFieldName "port" ∧ '\n' ∉ "8080".toList ∧ tagOfPlain (.ofString "8080") = .int ∧
      parseAssignments ["port" ++ "=" ++ "8080"] = .ok [("port", .str "8080")] ∧
      loadValues ("port" ++ ": " ++ "8080") = .ok [("port", .str "8080")] := by
  have hname : IsFieldName "port" := .of_formChars (by decide) (by decide) (by decide)
  have hline : '\n' ∉ "8080".toList := by decide
  have htag : tagOfPlain (.ofString "8080") = .int := by decide
  have hkeeps : KeepsSpelling "8080" :=
    .whole 8080 (Nat.lt_of_lt_of_le (by decide : 8080 < 10 ^ 4) (pow_le_pow10 (by decide)))
  obtain ⟨htyped, hfile⟩ := loadValues_spelled_iff hname hline (.inl htag)
  exact ⟨hname, hline, htag, htyped, hfile.2 ⟨readsBack_of_str (by decide), hkeeps⟩⟩

/-- A version of an engine loses its last zero in a file. -/
theorem loadValues_version :
    parseAssignments ["version=1.10"] = .ok [("version", .str "1.10")] ∧
      loadValues "version: 1.10" = .ok [("version", .str "1.1")] := by
  have hname : IsFieldName "version" := .of_formChars (by decide) (by decide) (by decide)
  have hkey : tagOfPlain (.ofChars "version".toList) = .str := by decide
  have hvalue : tagOfPlain (.ofChars "1.10".toList) = .float := by decide
  have hread : floatOf 2 (.ofChars "1.10".toList) = .ok (.float (.finite false 4953959590107546 (-52))) := rfl
  have hwrite : (Atom.float (.finite false 4953959590107546 (-52))).write = .ok "1.1" := by decide +kernel
  have hentry : lineEntry "version".toList "1.10".toList =
      .ok (.str (.ofChars "version".toList), .float (.finite false 4953959590107546 (-52))) :=
    lineEntry_eq_ok_iff.2 ⟨by rw [hkey]; rfl, by rw [hvalue]; exact hread⟩
  have hload := loadValues_entry hname (by decide) hentry
  rw [hwrite] at hload
  exact ⟨rfl, hload⟩

end CloudScaffold.Command
