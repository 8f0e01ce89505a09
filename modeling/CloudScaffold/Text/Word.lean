import CloudScaffold.Text.Word.Table
/-!
# Word characters

A word character is a letter, a number or the low line.
-/
namespace CloudScaffold.Text

def isAsciiLower (c : Char) : Bool := 'a' ≤ c && c ≤ 'z'

def isAsciiUpper (c : Char) : Bool := 'A' ≤ c && c ≤ 'Z'

def isAsciiLetter (c : Char) : Bool := isAsciiLower c || isAsciiUpper c

def isAsciiDigit (c : Char) : Bool := '0' ≤ c && c ≤ '9'

/-- Letters, numbers and the low line. -/
def isWord (c : Char) : Bool :=
  isAsciiLetter c || isAsciiDigit c || c == '_' || alnumBeyondAscii.has c

end CloudScaffold.Text
