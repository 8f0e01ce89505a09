import CloudScaffold.Text.Blank
import CloudScaffold.Text.Word
/-!
# Replies

A reply of the assistant holds files. A file starts at a marker, which stands at the start of a
line: a hash sign, blanks, a file name that ends in `.tf`, and then nothing but blanks up to the end
of a line. The blanks of a marker may be line breaks. Code fences are dropped before markers are
looked for, and so is what stands before the first marker.

`parseFiles` splits a reply; it refuses one without a marker, with a name that occurs twice, or with
a blank file.

`parseFiles` is TerraForge's `parse_generated_files`. Its patterns for markers and fences,
`_FILE_MARKER` and `_CODE_FENCE`, are `marker?` and `fence?`.
-/
namespace CloudScaffold.Assistant

open Text

/-- A text in pieces: characters, and marks for what a pattern found. -/
inductive Piece (α : Type) where
  | plain (c : Char)
  | mark (found : α)
  deriving DecidableEq, Repr

/-- A pattern: what it finds at the start of a text, and what follows. -/
abbrev Finder (α : Type) := List Char → Option (α × List Char)

/-- The pieces of a text for a pattern that is looked for at the starts of lines. What a pattern
finds must not be empty. -/
def pieces {α : Type} (find : Finder α) (lineStart : Bool) : List Char → List (Piece α)
  | [] => []
  | c :: r =>
    match if lineStart then find (c :: r) else none with
    | some (a, rest) =>
      if rest.length < (c :: r).length then .mark a :: pieces find false rest
      else .plain c :: pieces find (c == '\n') r
    | none => .plain c :: pieces find (c == '\n') r
termination_by cs => cs.length
decreasing_by all_goals (simp only [List.length_cons] at *; omega)

/-- What follows the last line break of a run of blanks, that line break included. -/
def lastBreak : List Char → Option (List Char)
  | [] => none
  | c :: r => match lastBreak r with
    | some t => some t
    | none => if c = '\n' then some (c :: r) else none

/-- Blanks up to the end of a line, as many as possible: what follows them, which is nothing or
starts with a line break. -/
def afterBlanks (cs : List Char) : Option (List Char) :=
  let rest := cs.dropWhile isBlank
  if rest.isEmpty then some []
  else (lastBreak (cs.takeWhile isBlank)).map (· ++ rest)

def isNameChar (c : Char) : Bool := isWord c || c == '-'

/-- A code fence: three backquotes and a word, alone on a line. -/
def fence? : Finder Unit
  | '\x60' :: '\x60' :: '\x60' :: r => (afterBlanks (r.dropWhile isNameChar)).map fun t => ((), t)
  | _ => none

/-- A file marker: the file name. -/
def marker? : Finder (List Char)
  | '#' :: r =>
    let afterHash := r.dropWhile isBlank
    let stem := afterHash.takeWhile isNameChar
    if afterHash.length = r.length || stem.isEmpty then none
    else match afterHash.dropWhile isNameChar with
      | '.' :: 't' :: 'f' :: t => (afterBlanks t).map fun rest => (stem ++ ['.', 't', 'f'], rest)
      | _ => none
  | _ => none

/-- The plain characters of a text in pieces. -/
def plainPart {α : Type} : List (Piece α) → List Char
  | [] => []
  | .plain c :: r => c :: plainPart r
  | .mark _ :: r => plainPart r

/-- A text without code fences. -/
def withoutFences (cs : List Char) : List Char := plainPart (pieces fence? true cs)

/-- The plain text before the first mark, and each mark with the plain text behind it. -/
def sections {α : Type} : List (Piece α) → List Char × List (α × List Char)
  | [] => ([], [])
  | .plain c :: r =>
    let (lead, rest) := sections r
    (c :: lead, rest)
  | .mark a :: r =>
    let (lead, rest) := sections r
    ([], (a, lead) :: rest)

/-- Why a reply gives no files. -/
inductive ReplyError where
  | noMarker
  | repeatedFile (name : String)
  | emptyFile (name : String)
  deriving DecidableEq, Repr

def ReplyError.message : ReplyError → String
  | noMarker => "No '# <name>.tf' file markers found in generated text"
  | repeatedFile n => s!"File '{n}' appears more than once in generated text"
  | emptyFile n => s!"File '{n}' is empty in generated text"

/-- The files of sections that follow files with the names `seen`. -/
def filesOf (seen : List String) :
    List (List Char × List Char) → Except ReplyError (List (String × String))
  | [] => .ok []
  | (name, text) :: r => do
    let name := String.ofList name
    let body := trimChars text
    if seen.contains name then throw (.repeatedFile name)
    if body.isEmpty then throw (.emptyFile name)
    let rest ← filesOf (name :: seen) r
    .ok ((name, .ofList (body ++ ['\n'])) :: rest)

/-- The sections of a reply, one for each marker. -/
def replySections (text : String) : List (List Char × List Char) :=
  (sections (pieces marker? true (withoutFences text.toList))).2

/-- The files of a reply, in the order of their markers. -/
def parseFiles (text : String) : Except ReplyError (List (String × String)) :=
  match replySections text with
  | [] => .error .noMarker
  | ss => filesOf [] ss

end CloudScaffold.Assistant
