import CloudScaffold.Value.Text
import CloudScaffold.Yaml.Tag
/-!
# Writing documents

Documents are written in block style: an entry or an item a line, two blanks deeper where a mapping
holds another, while a sequence stands at the indentation of its key. Empty collections are written
in brackets.

A text is written plain where it then reads as the same text, and else in single quotes. Texts are
taken to be printable and of one line.
-/
namespace CloudScaffold.Yaml

open Number

/-- The characters that mean something at the start of a scalar. -/
def leadIndicators : Chars := "-?:,[]\x7b\x7d#&*!|>'\"%@\x60".toList

/-- Whether a mark of the grammar stands inside a text: a colon before a blank or the end, or a hash
sign behind a blank. -/
def hasInnerMark : Chars → Bool
  | [] => false
  | [':'] => true
  | ':' :: ' ' :: _ => true
  | ' ' :: '#' :: _ => true
  | _ :: r => hasInnerMark r

/-- Whether a text starts with a character that means something there. -/
def hasLeadMark : Chars → Bool
  | [] => true
  | [c] => leadIndicators.contains c
  | c :: d :: _ =>
    if c == '-' || c == '?' || c == ':' then d == ' ' else leadIndicators.contains c

/-- Whether a text reads as itself without quotes. -/
def isPlain (cs : Chars) : Bool :=
  !hasLeadMark cs && !hasInnerMark cs && cs.head? != some ' ' && cs.getLast? != some ' '
    && tagOfPlain (.ofChars cs) == .str

/-- A text in single quotes. -/
def singleQuoted (cs : Chars) : String :=
  .ofList ('\'' :: cs.flatMap (fun c => if c = '\'' then ['\'', '\''] else [c]) ++ ['\''])

/-- A text as a scalar. -/
def scalarText (s : String) : String :=
  if isPlain s.toList then s else singleQuoted s.toList

/-- A node as it is written: on the line of its key, or on lines of its own. -/
inductive Written where
  | inline (text : String)
  | block (lines : List String)

/-- An item of a sequence. -/
def Written.item : Written → List String
  | inline t => ["- " ++ t]
  | block [] => ["-"]
  | block (l :: ls) => ("- " ++ l) :: ls.map ("  " ++ ·)

/-- An entry of a mapping. -/
def Written.entry (key : String) (indented : Bool) : Written → List String
  | inline t => [key ++ ": " ++ t]
  | block ls => (key ++ ":") :: (if indented then ls.map ("  " ++ ·) else ls)

def isMapping : Value → Bool
  | .map _ => true
  | _ => false

mutual
def written : Value → Written
  | .null => .inline "null"
  | .bool b => .inline (if b then "true" else "false")
  | .int n => .inline (showInt n)
  | .list [] => .inline "[]"
  | .map [] => .inline "\x7b\x7d"
  | .list xs => .block (writtenItems xs)
  | .map es => .block (writtenEntries es)
  | v => .inline (scalarText v.text)

def writtenItems : List Value → List String
  | [] => []
  | x :: xs => (written x).item ++ writtenItems xs

def writtenEntries : List (String × Value) → List String
  | [] => []
  | (k, v) :: r => (written v).entry (scalarText k) (isMapping v) ++ writtenEntries r
end

/-- A document with a line break behind every line. -/
def write (v : Value) : String :=
  let lines := match written v with
    | .inline t => [t]
    | .block ls => ls
  String.join (lines.map (· ++ "\n"))

end CloudScaffold.Yaml
