import CloudScaffold.Yaml.Token
/-!
# Scalars

How the text of a scalar is read: plain, in quotes, or as a block behind a bar or an angle. Line
breaks inside plain and quoted scalars fold into spaces; blank lines stay as breaks.
-/
namespace CloudScaffold.Yaml

open Text

/-! ## Plain scalars -/

/-- Whether a character ends a run of a plain scalar; `following` is the one behind it. -/
def endsPlain (flow : Bool) (c following : Char) : Bool :=
  isGap c
    || (c == ':' && (isGap following || (flow && ",[]\x7b\x7d".toList.contains following)))
    || (flow && ",?[]\x7b\x7d".toList.contains c)

/-- The length of a run of a plain scalar. -/
def plainLength (flow : Bool) : List Char → Nat
  | [] => 0
  | c :: r => if endsPlain flow c (r.headD endChar) then 0 else plainLength flow r + 1

/-- The breaks of blank lines behind a first one; none if a separator of documents follows. -/
def plainBreaks : Nat → Cursor → Option (List Char) × Cursor
  | 0, c => (some [], c)
  | fuel + 1, c =>
    let c := c.skipSpaces
    if isBreak c.peek then
      let (b, c) := c.takeBreak
      if c.atSeparator then (none, c)
      else
        let (rest, c) := plainBreaks fuel c
        (rest.map (b ++ ·), c)
    else (some [], c)

/-- What a line break and the blank lines behind it fold into. -/
def fold (first breaks : List Char) : List Char :=
  (if first ≠ ['\n'] then first else if breaks.isEmpty then [' '] else []) ++ breaks

/-- The space between two runs of a plain scalar, if another may follow, and whether a line
ended. -/
def plainSpaces (c : Cursor) : Option (List Char) × Bool × Cursor :=
  let (spaces, c) := c.takeWhile (· == ' ')
  if isBreak c.peek then
    let (first, c) := c.takeBreak
    if c.atSeparator then (none, true, c)
    else
      let (breaks, c) := plainBreaks (c.rest.length + 1) c
      (breaks.map (fold first), true, c)
  else (if spaces.isEmpty then none else some spaces, false, c)

/-- The runs of a plain scalar whose lines are indented: the text, whether the last thing read was
a line's end, and the cursor. -/
def plainRuns (flow : Bool) (indent : Int) :
    Nat → List Char → Bool → Cursor → List Char × Bool × Cursor
  | 0, _, ended, c => ([], ended, c)
  | fuel + 1, spaces, ended, c =>
    let length := if c.peek = '#' then 0 else plainLength flow c.rest
    if length = 0 then ([], ended, c)
    else
      let text := spaces ++ c.ahead length
      let (spaces, ended, c) := plainSpaces (c.advance length)
      match spaces with
      | none => (text, ended, c)
      | some spaces =>
        if c.peek = '#' || (!flow && (c.column : Int) < indent) then (text, ended, c)
        else
          let (rest, ended, c) := plainRuns flow indent fuel spaces ended c
          (text ++ rest, ended, c)

/-! ## Quoted scalars -/

/-- The escapes of one character. -/
def escapeOf? : Char → Option Char
  | '0' => some (.ofNat 0)
  | 'a' => some (.ofNat 7)
  | 'b' => some (.ofNat 8)
  | 't' | '\t' => some '\t'
  | 'n' => some '\n'
  | 'v' => some (.ofNat 11)
  | 'f' => some (.ofNat 12)
  | 'r' => some '\r'
  | 'e' => some (.ofNat 27)
  | ' ' => some ' '
  | '"' => some '"'
  | '\\' => some '\\'
  | '/' => some '/'
  | 'N' => some (.ofNat 0x85)
  | '_' => some (.ofNat 0xa0)
  | 'L' => some (.ofNat 0x2028)
  | 'P' => some (.ofNat 0x2029)
  | _ => none

/-- How many digits the escape of a code has. -/
def codeLength? : Char → Option Nat
  | 'x' => some 2
  | 'u' => some 4
  | 'U' => some 8
  | _ => none

/-- The breaks of blank lines inside quotes. -/
def quotedBreaks : Nat → Cursor → Except Fault (List Char × Cursor)
  | 0, c => .ok ([], c)
  | fuel + 1, c =>
    if c.atSeparator then .error .token
    else
      let c := c.skipWhile fun ch => ch == ' ' || ch == '\t'
      if isBreak c.peek then do
        let (b, c) := c.takeBreak
        let (rest, c) ← quotedBreaks fuel c
        .ok (b ++ rest, c)
      else .ok ([], c)

/-- Checks that a number is one of a code point. Numbers beyond words of 31 bits are a fault of their
own. -/
def checkPoint (n : Nat) : Except Fault Nat :=
  if 0x80000000 ≤ n then .error .tooLarge
  else if 0x110000 ≤ n then .error .noCharacter
  else .ok n

/-- An escape behind its backslash. -/
def takeEscape (c : Cursor) : Except Fault (Points × Cursor) :=
  match escapeOf? c.peek, codeLength? c.peek with
  | some ch, _ => .ok (.ofChars [ch], c.next)
  | none, some n => do
    let (code, c) ← takeHex n c.next
    .ok ([← checkPoint code], c)
  | none, none =>
    if isBreak c.peek then do
      let (breaks, c) ← quotedBreaks (c.rest.length + 1) c.takeBreak.2
      .ok (.ofChars breaks, c)
    else .error .token

/-- The spaces or line breaks inside quotes. -/
def quotedSpaces (c : Cursor) : Except Fault (List Char × Cursor) :=
  let (spaces, c) := c.takeWhile fun ch => ch == ' ' || ch == '\t'
  if c.peek = endChar then .error .token
  else if isBreak c.peek then do
    let (first, c) := c.takeBreak
    let (breaks, c) ← quotedBreaks (c.rest.length + 1) c
    .ok (fold first breaks, c)
  else .ok (spaces, c)

/-- Whether a character stands for itself in quotes of either kind. -/
def isQuotedPlain (c : Char) : Bool := !(isGap c || c == '\'' || c == '"' || c == '\\')

/-- A quoted scalar behind its first quote, up to the closing one. -/
def quotedRuns (double : Bool) : Nat → Cursor → Except Fault (Points × Cursor)
  | 0, _ => .error .token
  | fuel + 1, c =>
    let ch := c.peek
    let continueWith (text : Points) (c : Cursor) : Except Fault (Points × Cursor) := do
      let (rest, c) ← quotedRuns double fuel c
      .ok (text ++ rest, c)
    if !double && c.ahead 2 == ['\'', '\''] then continueWith (.ofChars ['\'']) (c.advance 2)
    else if ch = (if double then '"' else '\'') then .ok ([], c.next)
    else if double && ch == '\\' then do
      let (text, c) ← takeEscape c.next
      continueWith text c
    else if isGap ch then do
      let (text, c) ← quotedSpaces c
      continueWith (.ofChars text) c
    else if isQuotedPlain ch then
      let (text, c) := c.takeWhile isQuotedPlain
      continueWith (.ofChars text) c
    else continueWith (.ofChars [ch]) c.next

/-- A quoted scalar. -/
def takeQuoted (double : Bool) (c : Cursor) : Except Fault (Token × Cursor) := do
  let (text, c) ← quotedRuns double (c.rest.length + 1) c.next
  .ok (.scalar text false, c)

/-! ## Block scalars -/

/-- What becomes of the line breaks at the end of a block scalar. -/
inductive Chomping where
  | strip
  | clip
  | keep
  deriving DecidableEq, Repr

def takeChomping (c : Cursor) : Option Chomping × Cursor :=
  if c.peek = '+' then (some .keep, c.next)
  else if c.peek = '-' then (some .strip, c.next)
  else (none, c)

/-- An explicit indentation, which must not be zero. -/
def takeIncrement (c : Cursor) : Except Fault (Option Nat × Cursor) :=
  if c.peek = '0' then .error .token
  else if c.peek.isDigit then .ok (some (c.peek.toNat - 48), c.next)
  else .ok (none, c)

/-- The header of a block scalar behind its indicator. -/
def takeHeader (c : Cursor) : Except Fault ((Chomping × Option Nat) × Cursor) := do
  let (chomping, c) := takeChomping c
  let (increment, c) ← takeIncrement c
  let (chomping, c) := if chomping.isNone && increment.isSome then takeChomping c else (chomping, c)
  let c ← expect (isPlainGap c.peek) c
  let c ← endLine c
  .ok ((chomping.getD .clip, increment), c)

/-- The line breaks before the first line, and the widest indentation among them. -/
def leadingBreaks : Nat → Nat → Cursor → List Char × Nat × Cursor
  | 0, widest, c => ([], widest, c)
  | fuel + 1, widest, c =>
    if c.peek = ' ' then
      let c := c.skipSpaces
      leadingBreaks fuel (max widest c.column) c
    else if isBreak c.peek then
      let (b, c) := c.takeBreak
      let (rest, widest, c) := leadingBreaks fuel widest c
      (b ++ rest, widest, c)
    else ([], widest, c)

/-- The line breaks before a line that has a known indentation. -/
def blockBreaks (indent : Nat) : Nat → Cursor → List Char × Cursor
  | 0, c => ([], c)
  | fuel + 1, c =>
    let c := c.skipIndent indent
    if isBreak c.peek then
      let (b, c) := c.takeBreak
      let (rest, c) := blockBreaks indent fuel c
      (b ++ rest, c)
    else ([], c)

def isSpaceOrTab (c : Char) : Bool := c == ' ' || c == '\t'

/-- The lines of a block scalar: its text, then the break of the last line and the breaks behind it.
`breaks` stand before the first line. -/
def blockLines (folded : Bool) (indent : Nat) :
    Nat → List Char → Cursor → List Char × List Char × List Char × Cursor
  | 0, breaks, c => ([], [], breaks, c)
  | fuel + 1, breaks, c =>
    if c.column = indent && c.peek != endChar then
      let startsPlain := !isSpaceOrTab c.peek
      let (line, c) := c.takeWhile (!isBreakOrEnd ·)
      let (lineBreak, c) := c.takeBreak
      let (following, c) := blockBreaks indent (c.rest.length + 1) c
      if c.column = indent && c.peek != endChar then
        let joint :=
          if folded && lineBreak == ['\n'] && startsPlain && !isSpaceOrTab c.peek then
            if following.isEmpty then [' '] else []
          else lineBreak
        let (text, last, after, c) := blockLines folded indent fuel following c
        (breaks ++ line ++ joint ++ text, last, after, c)
      else (breaks ++ line, lineBreak, following, c)
    else ([], [], breaks, c)

/-- The end of a block scalar. -/
def Chomping.tail (chomping : Chomping) (last after : List Char) : List Char :=
  match chomping with
  | strip => []
  | clip => last
  | keep => last ++ after

/-- A block scalar inside a block of some indentation. -/
def takeBlock (folded : Bool) (indent : Int) (c : Cursor) : Except Fault (Token × Cursor) := do
  let ((chomping, increment), c) ← takeHeader c.next
  let least := (max 1 (indent + 1)).toNat
  let fuel := c.rest.length + 1
  let (breaks, indent, c) := match increment with
    | some n =>
      let (breaks, c) := blockBreaks (least + n - 1) fuel c
      (breaks, least + n - 1, c)
    | none =>
      let (breaks, widest, c) := leadingBreaks fuel 0 c
      (breaks, max least widest, c)
  let (text, last, after, c) := blockLines folded indent fuel breaks c
  .ok (.scalar (.ofChars (text ++ chomping.tail last after)) false, c)

end CloudScaffold.Yaml
