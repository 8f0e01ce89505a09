import CloudScaffold.Yaml.Scalar
/-!
# Token streams

A stream yields the tokens of a text one after the other and reads no further than it must, so that
of two faults the one that is met first counts.

Whether a scalar is a key shows only at the colon behind it. The stream therefore remembers the
places where a key may have started (`Candidate`), one for each level of flow collections, and puts
the key token in before what it has read since. A candidate is given up at the end of its line; one
that must be a key, since it stands at the indentation of its block, is then a fault.
-/
namespace CloudScaffold.Yaml

/-- A place where a key may have started. -/
structure Candidate where
  /-- The number of the token that would be the key. -/
  number : Nat
  required : Bool
  index : Nat
  line : Nat
  column : Nat
  deriving Repr

structure Stream where
  cursor : Cursor
  /-- How many flow collections are open. -/
  flow : Int := 0
  /-- Tokens read and not yet taken. -/
  queue : List Token := []
  /-- How many tokens were taken. -/
  taken : Nat := 0
  indent : Int := -1
  /-- The indentations of the blocks around the innermost one. -/
  outer : List Int := []
  /-- Whether a key may start here. -/
  keyAllowed : Bool := true
  candidates : List (Int × Candidate) := []
  done : Bool := false
  deriving Repr

/-- A key and its colon are at most this many characters apart. -/
def keyReach : Nat := 1024

namespace Stream

def ofChars (cs : List Char) : Stream := { cursor := { rest := cs } }

def isFlow (s : Stream) : Bool := s.flow != 0

def column (s : Stream) : Int := s.cursor.column

def push (s : Stream) (t : Token) : Stream := { s with queue := s.queue ++ [t] }

def moveTo (s : Stream) (c : Cursor) : Stream := { s with cursor := c }

def allowKey (s : Stream) (b : Bool) : Stream := { s with keyAllowed := b }

/-- Whether a candidate can be no key any more. -/
def isStale (s : Stream) (k : Candidate) : Bool :=
  k.line != s.cursor.line || decide (keyReach < s.cursor.index - k.index)

/-- Gives up the candidates that can be no keys any more. -/
def dropStale (s : Stream) : Except Fault Stream :=
  if s.candidates.any fun k => s.isStale k.2 && k.2.required then .error .token
  else .ok { s with candidates := s.candidates.filter fun k => !s.isStale k.2 }

/-- Gives up the candidate of the current level. -/
def dropCandidate (s : Stream) : Except Fault Stream :=
  match s.candidates.lookup s.flow with
  | some k =>
    if k.required then .error .token
    else .ok { s with candidates := s.candidates.filter fun k => k.1 != s.flow }
  | none => .ok s

/-- Remembers that a key may start here. -/
def noteCandidate (s : Stream) : Except Fault Stream :=
  if s.keyAllowed then do
    let s ← s.dropCandidate
    let k : Candidate :=
      { number := s.taken + s.queue.length, required := !s.isFlow && s.indent == s.column
        index := s.cursor.index, line := s.cursor.line, column := s.cursor.column }
    .ok { s with candidates := (s.flow, k) :: s.candidates }
  else .ok s

/-- Closes the blocks that are indented further than a column. -/
def unwindTo (column : Int) : Stream → List Int → Stream
  | s, [] => s
  | s, i :: is =>
    if column < s.indent then
      unwindTo column { s with indent := i, outer := is, queue := s.queue ++ [.blockEnd] } is
    else s

def unwind (s : Stream) (column : Int) : Stream :=
  if s.isFlow then s else unwindTo column s s.outer

/-- Opens a block at a column, unless it stands there already. -/
def openBlock (s : Stream) (column : Int) : Bool × Stream :=
  if s.indent < column then (true, { s with indent := column, outer := s.indent :: s.outer })
  else (false, s)

/-- Opens a block at the cursor and yields the token for it. -/
def openBlockHere (s : Stream) (t : Token) : Stream :=
  match s.openBlock s.column with
  | (true, s) => s.push t
  | (false, s) => s

/-- Skips spaces, comments and line breaks; behind a line break a key may start. -/
def skipSpace : Nat → Stream → Stream
  | 0, s => s
  | fuel + 1, s =>
    let c := s.cursor.skipSpaces.skipComment
    let (b, c') := c.takeBreak
    if b.isEmpty then s.moveTo c
    else skipSpace fuel ((s.moveTo c').allowKey (s.keyAllowed || !s.isFlow))

/-- Moves to the start of the next token. -/
def skipToToken (s : Stream) : Stream :=
  let s := if s.cursor.index = 0 && s.cursor.peek = orderMark then s.moveTo s.cursor.next else s
  skipSpace (s.cursor.rest.length + 1) s

/-- A token of some characters. -/
def pushAfter (s : Stream) (length : Nat) (t : Token) : Stream :=
  (s.moveTo (s.cursor.advance length)).push t

def fetchEnd (s : Stream) : Except Fault Stream := do
  let s ← (s.unwind (-1)).dropCandidate
  .ok { s.push .streamEnd with keyAllowed := false, candidates := [], done := true }

def fetchDirective (s : Stream) : Except Fault Stream := do
  let s ← (s.unwind (-1)).dropCandidate
  let (t, c) ← takeDirective s.cursor
  .ok (((s.allowKey false).moveTo c).push t)

def fetchSeparator (s : Stream) (t : Token) : Except Fault Stream := do
  let s ← (s.unwind (-1)).dropCandidate
  .ok ((s.allowKey false).pushAfter 3 t)

def fetchFlowStart (s : Stream) (t : Token) : Except Fault Stream := do
  let s ← s.noteCandidate
  .ok { s.pushAfter 1 t with flow := s.flow + 1, keyAllowed := true }

def fetchFlowEnd (s : Stream) (t : Token) : Except Fault Stream := do
  let s ← s.dropCandidate
  .ok { s.pushAfter 1 t with flow := s.flow - 1, keyAllowed := false }

def fetchFlowEntry (s : Stream) : Except Fault Stream := do
  let s ← (s.allowKey true).dropCandidate
  .ok (s.pushAfter 1 .flowEntry)

/-- Checks that something that starts a line of a block may stand here. -/
def requireLineStart (s : Stream) : Except Fault Unit :=
  if !s.isFlow && !s.keyAllowed then .error .token else .ok ()

def fetchBlockEntry (s : Stream) : Except Fault Stream := do
  s.requireLineStart
  let s := if s.isFlow then s else s.openBlockHere .blockSequenceStart
  let s ← (s.allowKey true).dropCandidate
  .ok (s.pushAfter 1 .blockEntry)

def fetchKey (s : Stream) : Except Fault Stream := do
  s.requireLineStart
  let s := if s.isFlow then s else s.openBlockHere .blockMappingStart
  let s ← (s.allowKey (!s.isFlow)).dropCandidate
  .ok (s.pushAfter 1 .key)

/-- Puts a token into the queue at a place that is counted from the start of the stream. -/
def insertAt (s : Stream) (number : Nat) (t : Token) : Stream :=
  { s with queue := s.queue.insertIdx (number - s.taken) t }

/-- A colon behind a candidate, which is a key then. -/
def fetchValueOf (s : Stream) (k : Candidate) : Stream :=
  let s := { s with candidates := s.candidates.filter fun k => k.1 != s.flow }
  let s := s.insertAt k.number .key
  let s := if s.isFlow then s
    else match s.openBlock k.column with
      | (true, s) => s.insertAt k.number .blockMappingStart
      | (false, s) => s
  (s.allowKey false).pushAfter 1 .value

def fetchValue (s : Stream) : Except Fault Stream :=
  match s.candidates.lookup s.flow with
  | some k => .ok (s.fetchValueOf k)
  | none => do
    s.requireLineStart
    let s := if s.isFlow then s else s.openBlockHere .blockMappingStart
    let s ← (s.allowKey (!s.isFlow)).dropCandidate
    .ok (s.pushAfter 1 .value)

/-- A token that may be a key. -/
def fetchWith (s : Stream) (take : Cursor → Except Fault (Token × Cursor)) :
    Except Fault Stream := do
  let s ← s.noteCandidate
  let (t, c) ← take s.cursor
  .ok (((s.allowKey false).moveTo c).push t)

def fetchBlockScalar (s : Stream) (folded : Bool) : Except Fault Stream := do
  let s ← (s.allowKey true).dropCandidate
  let (t, c) ← takeBlock folded s.indent s.cursor
  .ok ((s.moveTo c).push t)

def fetchPlain (s : Stream) : Except Fault Stream := do
  let s ← s.noteCandidate
  let c := s.cursor
  let (text, ended, c) := plainRuns s.isFlow (s.indent + 1) (c.rest.length + 1) [] false c
  .ok (((s.allowKey ended).moveTo c).push (.scalar (.ofChars text) true))

/-- Characters that start no plain scalar, unless something else says so. -/
def indicators : List Char := "-?:,[]\x7b\x7d#&*!|>'\"%@\x60".toList

def startsPlain (s : Stream) (c : Cursor) : Bool :=
  let ch := c.peek
  if indicators.contains ch then
    !isGap (c.peekAt 1) && (ch == '-' || (!s.isFlow && (ch == '?' || ch == ':')))
  else !isGap ch

/-- Whether an indicator stands alone, as it must outside flow collections. -/
def standsAlone (s : Stream) : Bool := s.isFlow || isGap (s.cursor.peekAt 1)

/-- Reads at the start of a token. -/
def fetchHere (s : Stream) : Except Fault Stream :=
  let c := s.cursor
  let ch := c.peek
  if ch = endChar then s.fetchEnd
  else if ch = '%' && c.column = 0 then s.fetchDirective
  else if c.column = 0 && c.atMark '-' then s.fetchSeparator .documentStart
  else if c.column = 0 && c.atMark '.' then s.fetchSeparator .documentEnd
  else if ch = '[' then s.fetchFlowStart .flowSequenceStart
  else if ch = '{' then s.fetchFlowStart .flowMappingStart
  else if ch = ']' then s.fetchFlowEnd .flowSequenceEnd
  else if ch = '}' then s.fetchFlowEnd .flowMappingEnd
  else if ch = ',' then s.fetchFlowEntry
  else if ch = '-' && isGap (c.peekAt 1) then s.fetchBlockEntry
  else if ch = '?' && s.standsAlone then s.fetchKey
  else if ch = ':' && s.standsAlone then s.fetchValue
  else if ch = '*' then s.fetchWith fun c => do
    let (n, c) ← takeAnchorName c
    .ok (.alias n, c)
  else if ch = '&' then s.fetchWith fun c => do
    let (n, c) ← takeAnchorName c
    .ok (.anchor n, c)
  else if ch = '!' then s.fetchWith takeTag
  else if ch = '|' && !s.isFlow then s.fetchBlockScalar false
  else if ch = '>' && !s.isFlow then s.fetchBlockScalar true
  else if ch = '\'' then s.fetchWith (takeQuoted false)
  else if ch = '"' then s.fetchWith (takeQuoted true)
  else if s.startsPlain c then s.fetchPlain
  else .error .token

/-- Reads on to the next token. -/
def fetch (s : Stream) : Except Fault Stream := do
  let s ← s.skipToToken.dropStale
  (s.unwind s.column).fetchHere

/-- Whether the next token may still get a key token before it. -/
def isOpen (s : Stream) : Bool := s.candidates.any fun k => k.2.number == s.taken

/-- Whether more must be read before the next token is known. -/
def needsMore (s : Stream) : Except Fault (Bool × Stream) :=
  if s.done then .ok (false, s)
  else if s.queue.isEmpty then .ok (true, s)
  else do
    let s ← s.dropStale
    .ok (s.isOpen, s)

/-- Reads until the next token is known. -/
def fill : Nat → Stream → Except Fault Stream
  | 0, s => .ok s
  | fuel + 1, s => do
    let (more, s) ← s.needsMore
    if more then fill fuel (← s.fetch) else .ok s

/-- The next token, which is not taken. -/
def peek (s : Stream) : Except Fault (Token × Stream) := do
  let s ← fill (s.cursor.rest.length + 2) s
  .ok (s.queue.headD .streamEnd, s)

/-- Takes the next token. -/
def drop (s : Stream) : Stream := { s with queue := s.queue.tail, taken := s.taken + 1 }

end Stream

end CloudScaffold.Yaml
