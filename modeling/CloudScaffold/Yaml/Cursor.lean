/-!
# Cursors

A cursor is a place in a text, with the line and column that decide about structure. Behind the end
of a text it sees the NUL character, which no text holds.
-/
namespace CloudScaffold.Yaml

def endChar : Char := '\x00'

/-- The characters that end a line. -/
def isBreak (c : Char) : Bool :=
  c == '\n' || c == '\r' || c == '\u0085' || c == '\u2028' || c == '\u2029'

def isBreakOrEnd (c : Char) : Bool := isBreak c || c == endChar

/-- Whatever parts words in a line. -/
def isGap (c : Char) : Bool := isBreakOrEnd c || c == ' ' || c == '\t'

/-- A gap other than a tab. -/
def isPlainGap (c : Char) : Bool := isBreakOrEnd c || c == ' '

/-- The mark of byte order, which takes no column. -/
def orderMark : Char := '\ufeff'

structure Cursor where
  rest : List Char
  index : Nat := 0
  line : Nat := 0
  column : Nat := 0
  deriving Repr

namespace Cursor

/-- The character at the cursor. -/
def peek (c : Cursor) : Char := c.rest.headD endChar

/-- The character some places on. -/
def peekAt (c : Cursor) (k : Nat) : Char := (c.rest[k]?).getD endChar

/-- The next characters. -/
def ahead (c : Cursor) (k : Nat) : List Char := c.rest.take k

/-- The cursor one character on. -/
def next (c : Cursor) : Cursor :=
  match c.rest with
  | [] => c
  | ch :: r =>
    if isBreak ch && !(ch == '\r' && r.head? == some '\n') then
      ⟨r, c.index + 1, c.line + 1, 0⟩
    else ⟨r, c.index + 1, c.line, if ch = orderMark then c.column else c.column + 1⟩

def advance (c : Cursor) : Nat → Cursor
  | 0 => c
  | n + 1 => advance c.next n

/-- Reads the characters with a property. -/
def takeWhile (c : Cursor) (p : Char → Bool) : List Char × Cursor :=
  let cs := c.rest.takeWhile p
  (cs, c.advance cs.length)

def skipWhile (c : Cursor) (p : Char → Bool) : Cursor := (c.takeWhile p).2

def skipSpaces (c : Cursor) : Cursor := c.skipWhile (· == ' ')

/-- Skips spaces while the column is below a bound. -/
def skipIndent (c : Cursor) (column : Nat) : Cursor :=
  c.advance (min (c.rest.takeWhile (· == ' ')).length (column - c.column))

/-- Skips a comment up to the end of its line. -/
def skipComment (c : Cursor) : Cursor :=
  if c.peek = '#' then c.skipWhile (!isBreakOrEnd ·) else c

/-- Reads a line break, if there is one: as a line feed, unless it is a separator of its own. -/
def takeBreak (c : Cursor) : List Char × Cursor :=
  let ch := c.peek
  if ch = '\u2028' || ch = '\u2029' then ([ch], c.next)
  else if isBreak ch then (['\n'], c.advance (if c.ahead 2 = ['\r', '\n'] then 2 else 1))
  else ([], c)

/-- Whether a mark of three characters stands alone at the cursor. -/
def atMark (c : Cursor) (mark : Char) : Bool :=
  c.ahead 3 == [mark, mark, mark] && isGap (c.peekAt 3)

/-- Whether a mark between documents stands at the cursor. -/
def atSeparator (c : Cursor) : Bool := c.atMark '-' || c.atMark '.'

end Cursor

end CloudScaffold.Yaml
