import CloudScaffold.Proofs.Assistant.Names
import Mathlib.Data.List.Nodup
/-!
# Replies are read without loss

A reply of any kind, with any number of markers and fences in any place, is read in the same way: its
fences are cut out, what is left is cut at its markers (`IsCut`), and each marker gives a file of the
text behind it. Nothing is lost but blanks at the ends of that text, and nothing stands in two files
(`Accounts`). A reply is refused only if there is no marker, or at the first part that is blank or has
the name of one before it (`ReplyError.Explains`).

Main statement: `parseFiles_lossless`.
-/
namespace CloudScaffold.Assistant

open Text

/-! ## Trimmed texts -/

/-- What is left of a text without the blanks at its ends, if anything is. -/
structure IsTrimmed (cs text : List Char) : Prop where
  split : ∃ front back, cs = front ++ (text ++ back) ∧ (∀ c ∈ front, isBlank c = true) ∧
    ∀ c ∈ back, isBlank c = true
  head : ∃ c ∈ text.head?, isBlank c = false
  last : ∃ c ∈ text.getLast?, isBlank c = false

theorem isTrimmed_trimChars {cs : List Char} (h : trimChars cs ≠ []) : IsTrimmed cs (trimChars cs) where
  split := trimChars_split cs
  head := by
    obtain ⟨c, r, hr⟩ := List.exists_cons_of_ne_nil h
    exact ⟨c, by rw [hr]; rfl, head_trimChars cs c (by rw [hr]; rfl)⟩
  last :=
    ⟨_, List.getLast?_eq_some_getLast h, getLast_trimEnd _ _ (List.getLast?_eq_some_getLast h)⟩

/-- The characters of a text that are no blanks. -/
def nonblanks (cs : List Char) : List Char := cs.filter (!isBlank ·)

theorem nonblanks_append (xs ys : List Char) : nonblanks (xs ++ ys) = nonblanks xs ++ nonblanks ys :=
  List.filter_append _ _

/-! ## Parts as files -/

/-- The name that a marker gives. -/
def Part.name (p : Part (List Char)) : String := .ofList p.found

/-- A file that is read from a part. It holds what is left of the text behind the marker, and one line
break. -/
structure Part.IsFile (p : Part (List Char)) (f : String × String) : Prop where
  name : f.1 = p.name
  content : ∃ text, f.2.toList = text ++ ['\n'] ∧ IsTrimmed p.body text

/-- Parts that can be read as files: their names differ, and there is more than blanks behind each. -/
structure AreFiles (ps : List (Part (List Char))) : Prop where
  names : (ps.map (·.name)).Nodup
  bodies : ∀ p ∈ ps, ∃ c ∈ p.body, isBlank c = false

/-- Whether an error names the first fault of parts. -/
def ReplyError.Explains (ps : List (Part (List Char))) : ReplyError → Prop
  | .noMarker => ps = []
  | .repeatedFile n => ∃ before p after, ps = before ++ p :: after ∧ AreFiles before ∧ p.name = n ∧
      n ∈ before.map (·.name)
  | .emptyFile n => ∃ before p after, ps = before ++ p :: after ∧ AreFiles before ∧ p.name = n ∧
      n ∉ before.map (·.name) ∧ ∀ c ∈ p.body, isBlank c = true

/-- A reading of parts that accounts for all of them. -/
structure Accounts (ps : List (Part (List Char)))
    (reading : Except ReplyError (List (String × String))) : Prop where
  /-- It succeeds just if there are parts and all of them can be read as files. -/
  ok_iff : (∃ files, reading = .ok files) ↔ ps ≠ [] ∧ AreFiles ps
  /-- Each part gives a file, in the order of the parts. -/
  files : ∀ files, reading = .ok files → List.Forall₂ Part.IsFile ps files
  /-- The files together hold the texts behind the markers together, but for blanks. -/
  kept : ∀ files, reading = .ok files →
    nonblanks (files.flatMap (·.2.toList)) = nonblanks (partsBody ps)
  error : ∀ e, reading = .error e → e.Explains ps

section
variable {ps before after : List (Part (List Char))} {p : Part (List Char)} {e : ReplyError}
  {files : List (String × String)}

theorem AreFiles.snoc (h : AreFiles before) (hname : p.name ∉ before.map (·.name))
    (hbody : ∃ c ∈ p.body, isBlank c = false) : AreFiles (before ++ [p]) where
  names := by
    rw [List.map_append, List.map_singleton, List.nodup_append]
    refine ⟨h.names, List.nodup_singleton _, fun n hn m hm hnm => ?_⟩
    rw [List.mem_singleton.1 hm] at hnm
    exact hname (hnm ▸ hn)
  bodies q hq := by
    rcases List.mem_append.1 hq with hq | hq
    · exact h.bodies q hq
    · rwa [List.mem_singleton.1 hq]

/-- Parts with a fault cannot be read as files. -/
theorem ReplyError.Explains.not_areFiles (h : e.Explains ps) : ¬ (ps ≠ [] ∧ AreFiles ps) := by
  rintro ⟨hne, hfiles⟩
  cases e with
  | noMarker => exact hne h
  | repeatedFile n =>
    obtain ⟨before, p, after, rfl, -, rfl, hmem⟩ := h
    have hnames := hfiles.names
    rw [List.map_append, List.map_cons] at hnames
    exact (List.nodup_append.1 hnames).2.2 _ hmem _ List.mem_cons_self rfl
  | emptyFile n =>
    obtain ⟨before, p, after, rfl, -, -, -, hblank⟩ := h
    obtain ⟨c, hc, hne⟩ := hfiles.bodies p (List.mem_append_right _ List.mem_cons_self)
    exact not_mem_of_forall hblank hne hc

/-- **Parts are read one by one**, after those that were read before. The induction is on the parts that
are left; the names that were seen are those of the parts before. -/
theorem filesOf_parts : ∀ (ps : List (Part (List Char))) {before : List (Part (List Char))}
    (seen : List String), AreFiles before → (∀ n, n ∈ seen ↔ n ∈ before.map (·.name)) →
    (∃ files, filesOf seen (ps.map fun p => (p.found, p.body)) = .ok files ∧
      AreFiles (before ++ ps) ∧ List.Forall₂ Part.IsFile ps files) ∨
    ∃ e, filesOf seen (ps.map fun p => (p.found, p.body)) = .error e ∧ e.Explains (before ++ ps)
  | [], before, _, hbefore, _ => by
    left
    exact ⟨[], rfl, by rwa [List.append_nil], .nil⟩
  | p :: ps, before, seen, hbefore, hseen => by
    rw [List.map_cons, filesOf_cons, ← Part.name]
    by_cases hname : p.name ∈ seen
    · right
      rw [if_pos hname]
      exact ⟨_, rfl, before, p, ps, rfl, hbefore, rfl, (hseen _).1 hname⟩
    by_cases hblank : trimChars p.body = []
    · right
      rw [if_neg hname, if_pos hblank]
      exact ⟨_, rfl, before, p, ps, rfl, hbefore, rfl, fun hmem => hname ((hseen _).2 hmem),
        trimChars_eq_nil_iff.1 hblank⟩
    rw [if_neg hname, if_neg hblank]
    have hbody : ∃ c ∈ p.body, isBlank c = false := by
      rw [trimChars_eq_nil_iff] at hblank
      simpa using hblank
    have hnext := hbefore.snoc (fun hmem => hname ((hseen _).2 hmem)) hbody
    have hseen' : ∀ n, n ∈ p.name :: seen ↔ n ∈ (before ++ [p]).map (·.name) := by
      intro n
      rw [List.mem_cons, hseen, List.map_append, List.mem_append, List.map_singleton,
        List.mem_singleton, or_comm]
    rcases filesOf_parts ps _ hnext hseen' with ⟨files, hfiles, hall, hread⟩ | ⟨e, he, hfault⟩
    · left
      rw [List.append_assoc, List.singleton_append] at hall
      rw [hfiles]
      exact ⟨_, rfl, hall, .cons ⟨rfl, _, String.toList_ofList, isTrimmed_trimChars hblank⟩ hread⟩
    · right
      rw [List.append_assoc, List.singleton_append] at hfault
      rw [he]
      exact ⟨e, rfl, hfault⟩

/-- A file holds the characters of its part, but for blanks. -/
theorem Part.IsFile.nonblanks_eq {f : String × String} (h : p.IsFile f) :
    nonblanks f.2.toList = nonblanks p.body := by
  obtain ⟨text, hf, ⟨front, back, hbody, hfront, hback⟩, -, -⟩ := h.content
  have hbreak : nonblanks ['\n'] = [] := by decide
  have hkept : nonblanks p.body = nonblanks text := by
    rw [hbody]
    exact filter_between (fun c hc => by simp [hc]) hfront hback text
  rw [hf, hkept, nonblanks_append, hbreak, List.append_nil]

theorem nonblanks_files (h : List.Forall₂ Part.IsFile ps files) :
    nonblanks (files.flatMap (·.2.toList)) = nonblanks (partsBody ps) := by
  induction h with
  | nil => rfl
  | cons hpf _ ih =>
    rw [partsBody, List.flatMap_cons, List.flatMap_cons, nonblanks_append, nonblanks_append, ih,
      hpf.nonblanks_eq]
    rfl

theorem Accounts.of_ok (hne : ps ≠ []) (hall : AreFiles ps) (hread : List.Forall₂ Part.IsFile ps files) :
    Accounts ps (.ok files) where
  ok_iff := ⟨fun _ => ⟨hne, hall⟩, fun _ => ⟨files, rfl⟩⟩
  files _ h := Except.ok.inj h ▸ hread
  kept _ h := Except.ok.inj h ▸ nonblanks_files hread
  error _ h := by cases h

theorem Accounts.of_error (h : e.Explains ps) : Accounts ps (.error e) where
  ok_iff := ⟨fun ⟨_, hok⟩ => (nomatch hok), fun hall => absurd hall h.not_areFiles⟩
  files _ hok := by cases hok
  kept _ hok := by cases hok
  error _ he := Except.error.inj he ▸ h

/-- A reply is read from its sections. -/
theorem accounts_of_sections {text : String}
    (h : replySections text = ps.map fun p => (p.found, p.body)) : Accounts ps (parseFiles text) := by
  cases ps with
  | nil =>
    have hnone : parseFiles text = .error .noMarker := by rw [parseFiles, h]; rfl
    rw [hnone]
    exact .of_error rfl
  | cons p ps =>
    have hread : parseFiles text = filesOf [] ((p :: ps).map fun p => (p.found, p.body)) := by
      rw [parseFiles, h]
      rfl
    rw [hread]
    have hnil : AreFiles [] := ⟨List.nodup_nil, List.forall_mem_nil _⟩
    rcases filesOf_parts (p :: ps) [] hnil fun _ => Iff.rfl with
      ⟨files, hok, hall, hfiles⟩ | ⟨e, he, hfault⟩
    · rw [hok]
      exact .of_ok (List.cons_ne_nil _ _) hall hfiles
    · rw [he]
      exact .of_error hfault

end

/-! ## Replies -/

/-- Whether a text is what is left of another when its fences are cut out. -/
def IsCleaned (text cleaned : List Char) : Prop :=
  ∃ lead fences, IsCut IsFence true text lead fences ∧ cleaned = lead ++ partsBody fences

theorem isCleaned_iff {text cleaned : List Char} :
    IsCleaned text cleaned ↔ cleaned = withoutFences text := by
  constructor
  · rintro ⟨lead, fences, hcut, rfl⟩
    exact (hcut.plainPart_eq fence?_finds).symm
  · rintro rfl
    obtain ⟨lead, fences, hcut⟩ := exists_cut fence?_finds true text
    exact ⟨lead, fences, hcut, hcut.plainPart_eq fence?_finds⟩

/-- **A reply is read without loss.** Any text can be cut at its fences, and what is left of it at its
markers; and however this is done, the reading accounts for all parts. -/
theorem parseFiles_lossless (text : String) :
    (∃ cleaned lead ps, IsCleaned text.toList cleaned ∧ IsCut IsMarker true cleaned lead ps) ∧
    ∀ cleaned lead ps, IsCleaned text.toList cleaned → IsCut IsMarker true cleaned lead ps →
      Accounts ps (parseFiles text) := by
  constructor
  · obtain ⟨lead, ps, hcut⟩ := exists_cut marker?_finds true (withoutFences text.toList)
    exact ⟨_, lead, ps, isCleaned_iff.2 rfl, hcut⟩
  · intro cleaned lead ps hclean hcut
    refine accounts_of_sections ?_
    rw [replySections, ← isCleaned_iff.1 hclean, hcut.sections_eq marker?_finds]

/-- A reply with a fence, a marker that goes over two lines, and a marker in the midst of a line. -/
def fencedReply : String :=
  "Sure:\n\x60\x60\x60hcl\n#\n main.tf  \n\n a = 1 # b.tf\n\x60\x60\x60\n# b.tf\n\nc {}\n"

theorem parseFiles_lossless_fencedReply : ∃ cleaned lead ps,
    IsCleaned fencedReply.toList cleaned ∧ IsCut IsMarker true cleaned lead ps ∧
      ps.map (fun p => (p.name, p.body)) =
        [("main.tf", "\n a = 1 # b.tf\n\n".toList), ("b.tf", "\nc {}\n".toList)] ∧
      Accounts ps (parseFiles fencedReply) := by
  obtain ⟨cleaned, lead, ps, hclean, hcut⟩ := (parseFiles_lossless fencedReply).1
  refine ⟨cleaned, lead, ps, hclean, hcut, ?_,
    (parseFiles_lossless fencedReply).2 cleaned lead ps hclean hcut⟩
  have hsections : replySections fencedReply =
      [("main.tf".toList, "\n a = 1 # b.tf\n\n".toList), ("b.tf".toList, "\nc {}\n".toList)] := by
    decide +kernel
  rw [replySections, ← isCleaned_iff.1 hclean, hcut.sections_eq marker?_finds] at hsections
  have hnamed := congrArg (List.map fun s => (String.ofList s.1, s.2)) hsections
  simpa [Part.name, Function.comp_def] using hnamed

end CloudScaffold.Assistant
