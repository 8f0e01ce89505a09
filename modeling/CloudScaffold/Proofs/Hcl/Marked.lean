import CloudScaffold.Hcl.Render
import CloudScaffold.Proofs.Lists
/-!
# Marked text

What a renderer writes, with the pointers still told from the rest: a `Marked` text is a list of
spans, each of them plain or the expression of a pointer. Layout is repeated on marked text, and two
laws say that the repetition is faithful: it comes to the same text (`layout_erase`), and it neither
drops a pointer nor adds one nor changes their order (`pointers_markedLayout`).
-/
namespace CloudScaffold.Hcl

inductive Span where
  | plain (s : String)
  /-- The expression of a pointer. -/
  | pointer (p : Pointer)

abbrev Marked := List Span

namespace Marked

/-- The text as it is written. -/
def text : Marked → String
  | [] => ""
  | .plain s :: r => s ++ text r
  | .pointer p :: r => p.expression ++ text r

/-- The pointers whose expressions the text holds, in order. -/
def pointers : Marked → List Pointer
  | [] => []
  | .plain _ :: r => pointers r
  | .pointer p :: r => p :: pointers r

/-- Texts with a separator between them. -/
def join (sep : String) (ms : List Marked) : Marked := [Span.plain sep].intercalate ms

@[simp] theorem text_append : ∀ m n : Marked, text (m ++ n) = text m ++ text n
  | [], n => by simp [text]
  | .plain s :: m, n => by simp [text, text_append m n, String.append_assoc]
  | .pointer p :: m, n => by simp [text, text_append m n, String.append_assoc]

@[simp] theorem pointers_append : ∀ m n : Marked, pointers (m ++ n) = pointers m ++ pointers n
  | [], n => rfl
  | .plain s :: m, n => pointers_append m n
  | .pointer p :: m, n => by simp [pointers, pointers_append m n]

theorem text_join (sep : String) : ∀ ms : List Marked,
    text (join sep ms) = sep.intercalate (ms.map text)
  | [] => by simp [join, text]
  | [m] => by simp [join]
  | m :: n :: ms => by
    have ih := text_join sep (n :: ms)
    simp only [join, List.map_cons] at ih
    simp [join, text, ih, String.append_assoc]

theorem pointers_join (sep : String) : ∀ ms : List Marked, pointers (join sep ms) = ms.flatMap pointers
  | [] => rfl
  | [m] => by simp [join]
  | m :: n :: ms => by
    have ih := pointers_join sep (n :: ms)
    simp only [join] at ih
    simp [join, pointers, ih]

end Marked

/-! ## Bodies -/

/-- A part of a body, marked. -/
inductive MarkedPiece where
  | attr (key : String) (value : Marked)
  | block (lines : List Marked)

namespace MarkedPiece

def erase : MarkedPiece → Piece
  | attr k m => .attr k (Marked.text m)
  | block ls => .block (ls.map Marked.text)

def pointers : MarkedPiece → List Pointer
  | attr _ m => Marked.pointers m
  | block ls => ls.flatMap Marked.pointers

end MarkedPiece

/-- Adjacent attributes, or a block, marked. -/
inductive MarkedSection where
  | run (attrs : List (String × Marked))
  | block (lines : List Marked)

namespace MarkedSection

/-- An attribute with its text. -/
def eraseAttr (kv : String × Marked) : String × String := (kv.1, Marked.text kv.2)

def erase : MarkedSection → Section
  | run kvs => .run (kvs.map eraseAttr)
  | block ls => .block (ls.map Marked.text)

def pointers : MarkedSection → List Pointer
  | run kvs => kvs.flatMap fun kv => Marked.pointers kv.2
  | block ls => ls.flatMap Marked.pointers

/-- One attribute, with its equals sign after `width` characters of key. -/
def line (depth width : Nat) (kv : String × Marked) : Marked :=
  .plain (indent depth ++ padKey width kv.1 ++ " = ") :: kv.2

def lines (depth : Nat) : MarkedSection → List Marked
  | run kvs => kvs.map (line depth (keyWidth (kvs.map eraseAttr)))
  | block ls => ls

theorem lines_erase (depth : Nat) : ∀ s : MarkedSection,
    (s.lines depth).map Marked.text = s.erase.lines depth
  | run kvs => by
    simp [lines, erase, Section.lines, Function.comp_def, line, Marked.text, attrLine, eraseAttr]
  | block ls => rfl

theorem pointers_lines (depth : Nat) : ∀ s : MarkedSection,
    (s.lines depth).flatMap Marked.pointers = s.pointers
  | run kvs => by simp [lines, pointers, List.flatMap_map, line, Marked.pointers]
  | block ls => rfl

end MarkedSection

/-- The runs and blocks of a body. -/
def markedSections : List MarkedPiece → List MarkedSection
  | [] => []
  | .block ls :: r => .block ls :: markedSections r
  | .attr k v :: r => match markedSections r with
    | .run kvs :: s => .run ((k, v) :: kvs) :: s
    | s => .run [(k, v)] :: s

/-- The lines of a body at a depth. -/
def markedLayout (depth : Nat) (pieces : List MarkedPiece) : List Marked :=
  [([] : Marked)].intercalate ((markedSections pieces).map (·.lines depth))

theorem sections_erase : ∀ ps : List MarkedPiece,
    (markedSections ps).map (·.erase) = sections (ps.map (·.erase))
  | [] => rfl
  | .block ls :: r => by
    rw [markedSections, List.map_cons, sections_erase r]
    rfl
  | .attr k v :: r => by
    rw [List.map_cons, MarkedPiece.erase, sections, ← sections_erase r, markedSections]
    rcases markedSections r with _ | ⟨_ | _, s⟩ <;> rfl

theorem pointers_markedSections : ∀ ps : List MarkedPiece,
    (markedSections ps).flatMap (·.pointers) = ps.flatMap (·.pointers)
  | [] => rfl
  | .block ls :: r => by
    rw [markedSections, List.flatMap_cons, pointers_markedSections r]
    rfl
  | .attr k v :: r => by
    have hp : (MarkedPiece.attr k v :: r).flatMap (·.pointers) =
        Marked.pointers v ++ r.flatMap (·.pointers) := rfl
    rw [hp, ← pointers_markedSections r, markedSections]
    rcases markedSections r with _ | ⟨kvs | ls, s⟩
    · simp [MarkedSection.pointers]
    · exact List.append_assoc (Marked.pointers v) _ _
    · simp [MarkedSection.pointers]

/-- **Marked layout is layout**, once the marks are off. -/
theorem layout_erase (depth : Nat) (ps : List MarkedPiece) :
    (markedLayout depth ps).map Marked.text = layout depth (ps.map (·.erase)) := by
  rw [markedLayout, map_intercalate, layout, ← sections_erase]
  simp only [List.map_map, List.map_cons, List.map_nil, Function.comp_def, MarkedSection.lines_erase,
    Marked.text]

/-- The pointers of a body are those of its parts. -/
theorem pointers_markedLayout (depth : Nat) (ps : List MarkedPiece) :
    (markedLayout depth ps).flatMap Marked.pointers = ps.flatMap (·.pointers) := by
  rw [markedLayout, flatMap_intercalate rfl, List.flatMap_map, ← pointers_markedSections]
  simp only [MarkedSection.pointers_lines]

end CloudScaffold.Hcl
