import CloudScaffold.Text.Base
import CloudScaffold.Text.Points
import CloudScaffold.Yaml.Cursor
import CloudScaffold.Yaml.Fault
/-!
# Tokens

The tokens of a YAML text. Indentation shows as tokens that open and close block collections.

This module reads the tokens that do not depend on what surrounds them: directives, names, tags.
-/
namespace CloudScaffold.Yaml

/-- A line that starts with a percent sign. -/
inductive Directive where
  | version (major minor : Nat)
  /-- A short name for the start of tags. -/
  | tagHandle (handle lead : String)
  | unknown
  deriving DecidableEq, Repr

inductive Token where
  | streamEnd
  | directive (d : Directive)
  | documentStart
  | documentEnd
  | blockSequenceStart
  | blockMappingStart
  | blockEnd
  | flowSequenceStart
  | flowSequenceEnd
  | flowMappingStart
  | flowMappingEnd
  | blockEntry
  | flowEntry
  | key
  | value
  | alias (name : String)
  | anchor (name : String)
  /-- A tag: its handle, if it has one, and the rest. -/
  | tag (handle : Option String) (suffix : String)
  /-- A scalar; `plain` if it stands without quotes or indicators. -/
  | scalar (text : Text.Points) (plain : Bool)
  deriving DecidableEq, Repr

/-- Letters, digits, hyphens and low lines of ASCII. -/
def isNameChar (c : Char) : Bool :=
  c.isDigit || ('A' ≤ c && c ≤ 'Z') || ('a' ≤ c && c ≤ 'z') || c == '-' || c == '_'

/-- The characters of a tag, percent signs included. -/
def isUriChar (c : Char) : Bool := isNameChar c || ";/?:@&=+$,.!~*'()[]%".toList.contains c

/-- Checks what stands at a cursor. -/
def expect (ok : Bool) (c : Cursor) : Except Fault Cursor := if ok then .ok c else .error .token

/-- A name that is not empty. -/
def takeName (c : Cursor) : Except Fault (String × Cursor) :=
  let (cs, c') := c.takeWhile isNameChar
  if cs.isEmpty then .error .token else .ok (.ofList cs, c')

/-- A whole number of some hexadecimal digits. -/
def takeHex (digits : Nat) (c : Cursor) : Except Fault (Nat × Cursor) :=
  let cs := c.ahead digits
  match Text.numberIn? 16 cs with
  | some n => if cs.length = digits then .ok (n, c.advance digits) else .error .token
  | none => .error .token

/-- Bytes written as percent escapes. `fuel` bounds their number. -/
def takeEscapes : Nat → Cursor → Except Fault (List UInt8 × Cursor)
  | 0, c => .ok ([], c)
  | fuel + 1, c =>
    if c.peek = '%' then do
      let (n, c) ← takeHex 2 c.next
      let (rest, c) ← takeEscapes fuel c
      .ok (UInt8.ofNat n :: rest, c)
    else .ok ([], c)

/-- The characters of a tag. `fuel` bounds the number of their runs. -/
def takeUriChars : Nat → Cursor → Except Fault (List Char × Cursor)
  | 0, c => .ok ([], c)
  | fuel + 1, c =>
    if c.peek = '%' then do
      let (bytes, c) ← takeEscapes c.rest.length c
      let some s := String.fromUTF8? ⟨bytes.toArray⟩ | .error .token
      let (rest, c) ← takeUriChars fuel c
      .ok (s.toList ++ rest, c)
    else
      let (cs, c') := c.takeWhile fun ch => isUriChar ch && ch != '%'
      if cs.isEmpty then .ok ([], c) else do
        let (rest, c) ← takeUriChars fuel c'
        .ok (cs ++ rest, c)

/-- The characters of a tag, at least one of them. -/
def takeUri (c : Cursor) : Except Fault (String × Cursor) := do
  let (cs, c') ← takeUriChars c.rest.length c
  if c'.index = c.index then .error .token else .ok (.ofList cs, c')

/-- The handle of a tag: one exclamation mark, or a name between two. -/
def takeHandle (c : Cursor) : Except Fault (String × Cursor) :=
  if c.peek ≠ '!' then .error .token
  else if c.peekAt 1 = ' ' then .ok ("!", c.next)
  else
    let name := c.next.rest.takeWhile isNameChar
    if c.peekAt (name.length + 1) ≠ '!' then .error .token
    else .ok (.ofList ('!' :: name ++ ['!']), c.advance (name.length + 2))

/-- A tag. -/
def takeTag (c : Cursor) : Except Fault (Token × Cursor) := do
  let (t, c) ←
    if c.peekAt 1 = '<' then do
      let (suffix, c) ← takeUri (c.advance 2)
      let c ← expect (c.peek == '>') c
      .ok (Token.tag none suffix, c.next)
    else if isGap (c.peekAt 1) then .ok (Token.tag none "!", c.next)
    else if (c.next.rest.takeWhile (!isPlainGap ·)).contains '!' then do
      let (handle, c) ← takeHandle c
      let (suffix, c) ← takeUri c
      .ok (Token.tag (some handle) suffix, c)
    else do
      let (suffix, c) ← takeUri c.next
      .ok (Token.tag (some "!") suffix, c)
  let c ← expect (isPlainGap c.peek) c
  .ok (t, c)

/-- The name of an anchor or an alias, behind its sign. -/
def takeAnchorName (c : Cursor) : Except Fault (String × Cursor) := do
  let (name, c) ← takeName c.next
  let c ← expect (isGap c.peek || "?:,]\x7d%@\x60".toList.contains c.peek) c
  .ok (name, c)

/-- Decimal digits as a number. -/
def takeDigitsOf (c : Cursor) : Except Fault (Nat × Cursor) :=
  let (cs, c') := c.takeWhile Char.isDigit
  if cs.isEmpty then .error .token
  else match Number.readInt (.ofList cs) with
    | .ok n => .ok (n.toNat, c')
    | .error e => .error (.number e)

/-- The rest of a directive's line, which may hold a comment. -/
def endLine (c : Cursor) : Except Fault Cursor := do
  let c := c.skipSpaces.skipComment
  let c ← expect (isBreakOrEnd c.peek) c
  .ok c.takeBreak.2

def takeVersion (c : Cursor) : Except Fault (Directive × Cursor) := do
  let (major, c) ← takeDigitsOf c.skipSpaces
  let c ← expect (c.peek == '.') c
  let (minor, c) ← takeDigitsOf c.next
  let c ← expect (isPlainGap c.peek) c
  .ok (.version major minor, c)

def takeTagHandle (c : Cursor) : Except Fault (Directive × Cursor) := do
  let (handle, c) ← takeHandle c.skipSpaces
  let c ← expect (c.peek == ' ') c
  let (lead, c) ← takeUri c.skipSpaces
  let c ← expect (isPlainGap c.peek) c
  .ok (.tagHandle handle lead, c)

/-- A directive. -/
def takeDirective (c : Cursor) : Except Fault (Token × Cursor) := do
  let (name, c) ← takeName c.next
  let c ← expect (isPlainGap c.peek) c
  let (d, c) ← if name = "YAML" then takeVersion c
    else if name = "TAG" then takeTagHandle c
    else .ok (Directive.unknown, c.skipWhile (!isBreakOrEnd ·))
  let c ← endLine c
  .ok (.directive d, c)

end CloudScaffold.Yaml
