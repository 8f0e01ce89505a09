import CloudScaffold.Text.Base
import CloudScaffold.Text.Literal.Table
/-!
# Literals

How messages show a text: between quotes, with escapes for the quote, the backslash, line breaks,
tabs and every character without a glyph. The quotes are single ones unless the text holds a single
quote and no double one.
-/
namespace CloudScaffold.Text

/-- Whether a character is shown as it is. -/
def hasGlyph (c : Char) : Bool :=
  if c.toNat < 127 then 32 ≤ c.toNat else !glyphless.has c

/-- One character of a literal in the given quotes. -/
def literalChar (quote c : Char) : List Char :=
  if c = quote || c = '\\' then ['\\', c]
  else if c = '\n' then ['\\', 'n']
  else if c = '\r' then ['\\', 'r']
  else if c = '\t' then ['\\', 't']
  else if hasGlyph c then [c]
  else if c.toNat < 0x100 then '\\' :: 'x' :: hexDigits 2 c.toNat
  else if c.toNat < 0x10000 then '\\' :: 'u' :: hexDigits 4 c.toNat
  else '\\' :: 'U' :: hexDigits 8 c.toNat

/-- The quote around a text. -/
def literalQuote (cs : List Char) : Char :=
  if cs.contains '\'' && !cs.contains '"' then '"' else '\''

/-- A text as a message shows it. -/
def literal (s : String) : String :=
  let cs := s.toList
  let q := literalQuote cs
  .ofList (q :: cs.flatMap (literalChar q) ++ [q])

/-- Texts as a message shows them together. -/
def literalList (xs : List String) : String :=
  "[" ++ ", ".intercalate (xs.map literal) ++ "]"

end CloudScaffold.Text
