import CloudScaffold.Command.Run
import CloudScaffold.Proofs.Number.DigitSign
import Mathlib.Logic.Function.Iterate
/-!
# Choosing from a menu

A menu takes lines until one picks an option, by its name or by its number from one on (`Picks`); any
other line is refused, and the question is asked again. At the end of the input the session ends
(`Settles`).

What guards the reading of a number is that all its characters are digit signs. A reader of numbers asks
for more: superscripts and circled digits are digit signs too, and a numeral may have too many digits. A
line of that kind makes the session fail (`Trips`). Main statement: `choose_settles_iff`, by which there is
no other exception.
-/
namespace CloudScaffold.Command

open Text Number

/-! ## Lines and options -/

/-- A numeral of decimal digits, which may be those of any script. -/
structure IsNumeral (s : String) (n : Nat) : Prop where
  nonempty : s.toList ≠ []
  digits : ∀ c ∈ s.toList, isDigit c = true
  value : ofDigits 10 (s.toList.map digitOf) = n

/-- The option that a line picks. Blanks at its ends do not count, and a name comes before a number. -/
inductive Picks (options : List String) (line : String) : String → Prop
  | name (h : trim line ∈ options) : Picks options line (trim line)
  | number {n : Nat} {option : String} (hname : trim line ∉ options) (hn : IsNumeral (trim line) n)
      (hpos : 1 ≤ n) (hoption : options[n - 1]? = some option) : Picks options line option

/-- A line of digit signs that no option is named by and no numeral can be read from. -/
structure Trips (options : List String) (line : String) : Prop where
  nameless : trim line ∉ options
  nonempty : (trim line).toList ≠ []
  signs : ∀ c ∈ (trim line).toList, isDigitSign c = true
  unread : (∃ c ∈ (trim line).toList, isDigit c = false) ∨ digitLimit < (trim line).toList.length

/-- Whether a menu comes to a line that trips it, before any line that picks an option. -/
def Stumbles (options lines : List String) : Prop :=
  ∃ before line after, lines = before ++ line :: after ∧
    (∀ b ∈ before, ∀ o, ¬ Picks options b o) ∧ Trips options line

/-! ## Desks -/

namespace Desk

/-- A desk after lines were said. -/
def sayLines (d : Desk) (lines : List String) : Desk := lines.foldl (fun d l => d.say (l ++ "\n")) d

/-- A desk after an answer was asked for and refused. -/
def refuse (d : Desk) : Desk := (d.say choiceMark).say choiceHint

/-- A desk after a menu was shown and some answers to it were refused. -/
def showMenu (d : Desk) (title : String) (options : List String) (refused : Nat) : Desk :=
  refuse^[refused] (d.sayLines (title :: numbered options))

end Desk

/-- A menu that takes lines up to the first one that picks an option, and ends the session if there is
none. The desk is left with the lines behind; nothing but its output changes besides. -/
structure Settles (title : String) (options : List String) (d : Desk) : Prop where
  picked : ∀ before line after option, d.input = before ++ line :: after →
    (∀ b ∈ before, ∀ o, ¬ Picks options b o) → Picks options line option →
    (choose title options).run d =
      (.ok option, { (d.showMenu title options before.length).say choiceMark with input := after })
  left : (∀ l ∈ d.input, ∀ o, ¬ Picks options l o) →
    (choose title options).run d = (.error (.exit 0),
      { ((d.showMenu title options d.input.length).say choiceMark).say farewell with input := [] })

/-! ## One answer -/

section
variable {options : List String} {line option : String}

theorem IsNumeral.signs {s : String} {n : Nat} (h : IsNumeral s n) :
    s ≠ "" ∧ s.toList.all isDigitSign = true := by
  refine ⟨?_, List.all_eq_true.2 fun c hc => ?_⟩
  · rintro rfl
    exact h.nonempty rfl
  · rw [isDigitSign, h.digits c hc, Bool.true_or]

theorem pick_eq_of_nameless (h : trim line ∉ options) : pick options (trim line) =
    if trim line ≠ "" ∧ (trim line).toList.all isDigitSign = true then
      (readInt (trim line)).map fun n => if 1 ≤ n then options[n.toNat - 1]? else none
    else .ok none := by
  have hno : options.contains (trim line) = false := by simpa using h
  rw [pick, hno, if_neg (by decide)]
  simp only [Bool.and_eq_true, bne_iff_ne]
  split
  · cases readInt (trim line) <;> rfl
  · rfl

/-- An answer is taken for the option that it picks. -/
theorem pick_of_picks (h : Picks options line option) (ht : ¬ Trips options line) :
    pick options (trim line) = .ok (some option) := by
  cases h with
  | name h =>
    have hyes : options.contains (trim line) = true := by simpa using h
    rw [pick, hyes, if_pos rfl]
  | @number n _ hname hn hpos hoption =>
    have hlen : (trim line).toList.length ≤ digitLimit := by
      refine Nat.le_of_not_lt fun hlong => ht ⟨hname, hn.nonempty, fun c hc => ?_, .inr hlong⟩
      rw [isDigitSign, hn.digits c hc, Bool.true_or]
    have hread := readInt_of_isDigit hn.nonempty hn.digits hlen
    rw [hn.value] at hread
    rw [pick_eq_of_nameless hname, if_pos hn.signs, hread]
    simp [Except.map, hpos, hoption]

/-- An answer that trips the menu is a failure. -/
theorem pick_of_trips (h : Trips options line) : ∃ e, pick options (trim line) = .error e := by
  have hsigns : trim line ≠ "" ∧ (trim line).toList.all isDigitSign = true := by
    refine ⟨fun hempty => h.nonempty ?_, List.all_eq_true.2 h.signs⟩
    rw [hempty]
    rfl
  have hread : ∃ e, readInt (trim line) = .error e := by
    by_cases hall : ∀ c ∈ (trim line).toList, isDigit c = true
    · refine ⟨_, readInt_of_tooManyDigits hall (h.unread.resolve_left ?_)⟩
      rintro ⟨c, hc, hdigit⟩
      simp [hall c hc] at hdigit
    · push Not at hall
      obtain ⟨c, hc, hdigit⟩ := hall
      exact readInt_of_undecimal h.signs hc (by simpa using hdigit)
  obtain ⟨e, he⟩ := hread
  exact ⟨e, by rw [pick_eq_of_nameless h.nameless, if_pos hsigns, he]; rfl⟩

/-- Any other answer picks nothing. -/
theorem pick_of_not (h : ∀ o, ¬ Picks options line o) (ht : ¬ Trips options line) :
    pick options (trim line) = .ok none := by
  have hname : trim line ∉ options := fun hmem => h _ (.name hmem)
  rw [pick_eq_of_nameless hname]
  split
  · next hsigns =>
    have hne : (trim line).toList ≠ [] := by simpa using hsigns.1
    have hall := List.all_eq_true.1 hsigns.2
    have hdigits : ∀ c ∈ (trim line).toList, isDigit c = true := fun c hc => by
      by_contra hno
      exact ht ⟨hname, hne, hall, .inl ⟨c, hc, by simpa using hno⟩⟩
    have hlen : (trim line).toList.length ≤ digitLimit :=
      Nat.le_of_not_lt fun hlong => ht ⟨hname, hne, hall, .inr hlong⟩
    rw [readInt_of_isDigit hne hdigits hlen]
    have hnone : ∀ n : Nat, ofDigits 10 ((trim line).toList.map digitOf) = n → 1 ≤ n →
        options[n - 1]? = none := fun n hn hpos => by
      by_contra hsome
      obtain ⟨o, ho⟩ := Option.ne_none_iff_exists'.1 hsome
      exact h o (.number hname ⟨hne, hdigits, hn⟩ hpos ho)
    simp only [Except.map, Nat.one_le_cast, Int.toNat_natCast]
    split
    · next hpos => rw [hnone _ rfl hpos]
    · rfl
  · rfl

end

/-! ## Menus -/

section
variable {title : String} {options : List String} {d : Desk}

theorem run_forM_sayLine (lines : List String) (d : Desk) :
    (lines.forM sayLine).run d = (.ok (), d.sayLines lines) := by
  induction lines generalizing d with
  | nil => rfl
  | cons l ls ih =>
    change (sayLine l >>= fun _ => ls.forM sayLine).run d = _
    rw [Session.run_bind]
    exact ih (d.say (l ++ "\n"))

theorem input_sayLines (lines : List String) (d : Desk) : (d.sayLines lines).input = d.input := by
  induction lines generalizing d with
  | nil => rfl
  | cons l ls ih => exact ih (d.say (l ++ "\n"))

theorem run_choose (title : String) (options : List String) (d : Desk) :
    (choose title options).run d = (d.sayLines (title :: numbered options)).choose options d.input := by
  have hmenu : (choose title options).run d =
      (Session.choice options pure).run (d.sayLines (title :: numbered options)) := by
    change ((numbered options).forM sayLine >>= fun _ => Session.choice options pure).run
      (d.say (title ++ "\n")) = _
    rw [Session.run_bind, run_forM_sayLine]
    rfl
  rw [hmenu, ← input_sayLines (title :: numbered options) d, Session.run]
  rcases (d.sayLines (title :: numbered options)).choose options
    (d.sayLines (title :: numbered options)).input with ⟨_ | o, e⟩ <;> rfl

/-- The lines that are said to come play no part but what they are replaced by. -/
theorem choose_setInput (lines input : List String) :
    ({ d with input := input } : Desk).choose options lines = d.choose options lines := by
  cases lines <;> rfl

/-- A line that is refused is passed by. -/
theorem choose_cons_of_none {line : String} {lines : List String}
    (h : pick options (trim line) = .ok none) :
    d.choose options (line :: lines) = d.refuse.choose options lines := by
  rw [Desk.choose, h]
  exact choose_setInput (d := d.refuse) lines lines

/-- Lines that neither pick an option nor trip the menu are refused one after the other. -/
theorem choose_append {before : List String} (lines : List String)
    (h : ∀ b ∈ before, (∀ o, ¬ Picks options b o) ∧ ¬ Trips options b) :
    d.choose options (before ++ lines) = (Desk.refuse^[before.length] d).choose options lines := by
  induction before generalizing d with
  | nil => rfl
  | cons b bs ih =>
    obtain ⟨hb, hbs⟩ := List.forall_mem_cons.1 h
    rw [List.cons_append, choose_cons_of_none (pick_of_not hb.1 hb.2), ih hbs]
    rfl

theorem not_trips_of_not_stumbles {before lines : List String}
    (hs : ¬ Stumbles options (before ++ lines)) (hb : ∀ b ∈ before, ∀ o, ¬ Picks options b o) :
    ∀ b ∈ before, (∀ o, ¬ Picks options b o) ∧ ¬ Trips options b := by
  refine fun b hmem => ⟨hb b hmem, fun ht => hs ?_⟩
  obtain ⟨front, back, rfl⟩ := List.append_of_mem hmem
  exact ⟨front, b, back ++ lines, by simp, fun c hc => hb c (List.mem_append_left _ hc), ht⟩

/-- Without a line that trips it, a menu does what is asked of it. -/
theorem settles_of_not_stumbles (h : ¬ Stumbles options d.input) : Settles title options d where
  picked before line after option hinput hbefore hpick := by
    rw [hinput] at h
    have hpassed := not_trips_of_not_stumbles h hbefore
    have hline : ¬ Trips options line := fun ht => h ⟨before, line, after, rfl, hbefore, ht⟩
    rw [run_choose, hinput, choose_append _ hpassed, Desk.choose, pick_of_picks hpick hline]
    rfl
  left hnone := by
    have hinput : ¬ Stumbles options (d.input ++ []) := by rwa [List.append_nil]
    have hpassed := not_trips_of_not_stumbles hinput hnone
    rw [run_choose, ← List.append_nil d.input, choose_append _ hpassed, List.append_nil]
    rfl

/-- A line that trips a menu ends the session with a failure. -/
theorem choose_of_stumbles {lines : List String} (h : Stumbles options lines) (d : Desk) :
    ∃ e, (d.choose options lines).1 = .error (.numeral e) := by
  obtain ⟨before, line, after, rfl, hbefore, htrips⟩ := h
  have here : ∀ {l ls} (d : Desk), Trips options l →
      ∃ e, (d.choose options (l :: ls)).1 = .error (.numeral e) := fun d ht => by
    obtain ⟨e, he⟩ := pick_of_trips ht
    exact ⟨e, by rw [Desk.choose, he]⟩
  induction before generalizing d with
  | nil => exact here d htrips
  | cons b bs ih =>
    obtain ⟨hb, hbs⟩ := List.forall_mem_cons.1 hbefore
    by_cases ht : Trips options b
    · exact here d ht
    · rw [List.cons_append, choose_cons_of_none (pick_of_not hb ht)]
      exact ih d.refuse hbs

/-- What a menu does that settles is no failure. -/
theorem Settles.not_numeral (h : Settles title options d) (e : NumberError) :
    ((choose title options).run d).1 ≠ .error (.numeral e) := by
  classical
  cases hfirst : d.input.find? fun l => ∃ o, Picks options l o with
  | some line =>
    obtain ⟨hpick, before, after, hinput, hbefore⟩ := List.find?_eq_some_iff_append.1 hfirst
    obtain ⟨o, ho⟩ := of_decide_eq_true hpick
    rw [h.picked before line after o hinput (fun b hb => by simpa using hbefore b hb) ho]
    simp
  | none =>
    rw [h.left fun l hl => by simpa using List.find?_eq_none.1 hfirst l hl]
    simp

end

/-- **A menu asks again until a line picks an option, and fails for nothing but a line that trips it.**
Whatever the options, the lines to come and the desk: the menu settles exactly if no line trips it before
one picks an option, and otherwise the session ends because a numeral cannot be read. -/
theorem choose_settles_iff (title : String) (options : List String) (d : Desk) :
    (Settles title options d ↔ ¬ Stumbles options d.input) ∧
      (Stumbles options d.input ↔ ∃ e, ((choose title options).run d).1 = .error (.numeral e)) := by
  have hfails : Stumbles options d.input →
      ∃ e, ((choose title options).run d).1 = .error (.numeral e) := fun h => by
    rw [run_choose]
    exact choose_of_stumbles h _
  have hsettles : Settles title options d → ¬ Stumbles options d.input := fun hsettles h => by
    obtain ⟨e, he⟩ := hfails h
    exact hsettles.not_numeral e he
  refine ⟨⟨hsettles, settles_of_not_stumbles⟩, hfails, fun ⟨e, he⟩ => ?_⟩
  by_contra h
  exact (settles_of_not_stumbles h).not_numeral e he

/-- A superscript two, and then the name of an option: the session fails, though the second line picks an
option and the first one picks none. -/
theorem choose_superscript :
    let options := ["aws", "gcp", "azure"]
    let d : Desk := { input := ["²", "aws"] }
    (∀ o, ¬ Picks options "²" o) ∧ Picks options "aws" "aws" ∧
      ((choose "Select a cloud provider:" options).run d).1 = .error (.numeral (.notInteger 10 "²")) ∧
      ¬ Settles "Select a cloud provider:" options d := by
  intro options d
  have htrim : trim "²" = "²" := by decide +kernel
  have hrun : ((choose "Select a cloud provider:" options).run d).1 =
      .error (.numeral (.notInteger 10 "²")) := by
    rw [run_choose]
    rfl
  have hpick : Picks options "aws" (trim "aws") := .name (by decide +kernel)
  refine ⟨fun o h => ?_, hpick, hrun, fun h => h.not_numeral _ hrun⟩
  cases h with
  | name h => exact absurd h (by rw [htrim]; decide +kernel)
  | number _ hn => exact absurd (hn.digits '²' (by rw [htrim]; decide +kernel)) (by decide +kernel)

end CloudScaffold.Command
