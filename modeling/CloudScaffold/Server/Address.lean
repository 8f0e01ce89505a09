import CloudScaffold.Number.Numeral
import CloudScaffold.Text.Base
import CloudScaffold.Text.Parts
import CloudScaffold.Text.Utf8
/-!
# Addresses

A request names its place by a reference: a path, perhaps behind a scheme and an authority, and
perhaps with a query and a fragment behind it. `placeOf` is the path that the server sees. Dots in
it are resolved first; then percent escapes are read, by the sender and by the receiver, so that an
escape of a percent sign may start another one.
-/
namespace CloudScaffold.Server

open Text

/-- Why a request cannot be sent to its place. -/
inductive AddressFault where
  /-- A text that is no reference. -/
  | malformed
  /-- A scheme that nothing is sent by. -/
  | unknownScheme (name : String)
  /-- A scheme of sockets, which no answer comes back by. -/
  | socket
  /-- Redirects that end in further redirects, too many of them. -/
  | tooManyRedirects
  deriving DecidableEq, Repr

/-! ## Parts of a reference -/

def isLetter (c : Char) : Bool := ('a' ≤ c && c ≤ 'z') || ('A' ≤ c && c ≤ 'Z')

def isSchemeChar (c : Char) : Bool := isLetter c || c.isDigit || c == '+' || c == '.' || c == '-'

/-- The scheme at the start of a reference, and what follows its colon. -/
def takeScheme (cs : List Char) : List Char × List Char :=
  let name := cs.takeWhile isSchemeChar
  match cs.drop name.length with
  | ':' :: r => if name.head?.all isLetter then (name, r) else ([], cs)
  | _ => ([], cs)

/-- The authority at the start of a reference, behind two slashes, and what follows it. -/
def takeAuthority : List Char → List Char × List Char
  | '/' :: '/' :: r => r.span fun c => c != '/' && c != '?' && c != '#'
  | cs => ([], cs)

/-- A reference without its query and its fragment. -/
def dropQuery (cs : List Char) : List Char := cs.takeWhile fun c => c != '?' && c != '#'

/-- Who and where. -/
structure Authority where
  user : List Char
  host : List Char
  port : List Char

/-- A host in brackets, and what follows it; the last bracket closes. -/
def takeBracketed (cs : List Char) : Option (List Char × List Char) :=
  if cs.head? = some '[' && cs.contains ']' then
    let behind := (cs.reverse.takeWhile (· != ']')).reverse
    some (cs.take (cs.length - behind.length), behind)
  else none

def Authority.ofChars (cs : List Char) : Authority :=
  let place := (cs.reverse.takeWhile (· != '@')).reverse
  let (host, r) := (takeBracketed place).getD (place.span (· != ':'))
  { user := cs.take (cs.length - place.length - 1), host := host
    port := if r.head? = some ':' then r.tail else r }

/-- Whether a text is digits parted by a number of single characters, whichever they are. -/
def isParted (marks : Nat) (behindDigit : Bool) : List Char → Bool
  | [] => marks = 0 && behindDigit
  | c :: r =>
    (c.isDigit && isParted marks true r)
      || match marks with
        | 0 => false
        | m + 1 => behindDigit && isParted m false r

/-- Whether a text is a number of a byte, without a zero in front. -/
def isByteNumeral (cs : List Char) : Bool :=
  cs.all Char.isDigit && (numberIn? 10 cs).any (· < 256)
    && (cs.length = 1 || (!cs.isEmpty && cs.head? != some '0' && cs.length ≤ 3))

/-- Whether a text is four numbers of bytes with dots between them. -/
def isDottedQuad (cs : List Char) : Bool :=
  let parts := partsAt '.' cs
  parts.length = 4 && parts.all isByteNumeral

/-- Whether a host can be one: what looks like four numbers must be four bytes. Hosts in brackets
are not known here. -/
def isHost (cs : List Char) : Bool :=
  if isParted 3 false cs then isDottedQuad cs else (takeBracketed cs).isNone

/-- Whether a port can be one. -/
def isPort (cs : List Char) : Bool := cs.isEmpty || (Number.readInt (.ofList cs)).isOk

def Authority.isValid (a : Authority) : Bool := isHost a.host && isPort a.port

def Authority.isEmpty (a : Authority) : Bool :=
  a.user.isEmpty && a.host.isEmpty && a.port.isEmpty

/-! ## The place of a reference -/

/-- A path with its dots resolved: one dot is the place itself, two are the one above. -/
def resolveDots (path : List Char) : List Char :=
  let step (above : List (List Char)) (part : List Char) : List (List Char) :=
    if part = ['.'] then above
    else if part = ['.', '.'] then (if above = [[]] then above else above.tail)
    else part :: above
  ['/'].intercalate ((partsAt '/' path).foldl step []).reverse

/-- Bytes that wait for their decoding, before the text that follows them. -/
def flushBytes (pending : List Nat) (rest : List Char) : List Char :=
  readUtf8 pending.reverse ++ rest

/-- A text without percent escapes; `pending` holds the bytes just read, the last one first. -/
def unescapeAfter (pending : List Nat) : List Char → List Char
  | [] => flushBytes pending []
  | '%' :: a :: b :: r =>
    match numberIn? 16 [a, b] with
    | some x => unescapeAfter (x :: pending) r
    | none => flushBytes pending ('%' :: unescapeAfter [] (a :: b :: r))
  | c :: r => flushBytes pending (c :: unescapeAfter [] r)

/-- A text whose percent escapes are read once. -/
def unescape (cs : List Char) : List Char := unescapeAfter [] cs

/-- The path that is sent for a path. -/
def sentPath (path : List Char) : List Char :=
  let resolved := resolveDots path
  if resolved.isEmpty then ['/'] else resolved

/-- The path that arrives for a path with escapes. -/
def arriving (path : List Char) : List Char := unescape (unescape (sentPath path))

/-- The path that arrives for a path that is escaped before it is sent: one of the two readings
undoes the escapes, and nothing in the path is taken for a query or a fragment. -/
def arrivingEscaped (path : List Char) : List Char := unescape (sentPath path)

/-- Whether something can be sent by a scheme. -/
def checkScheme (name : List Char) : Except AddressFault Unit :=
  let lower := name.map Char.toLower
  if lower = "http".toList || lower = "https".toList then .ok ()
  else if lower = "ws".toList || lower = "wss".toList then .error .socket
  else .error (.unknownScheme (.ofList lower))

/-- The longest reference. -/
def referenceLimit : Nat := 65536

/-- Whether a character may not stand in a reference. -/
def isControl (c : Char) : Bool := c.toNat < 32 || c.toNat = 127

/-- The path that arrives for a reference. A reference without a scheme or without a host is one to
this server, and its slashes at the start count as one. -/
def placeOf (reference : String) : Except AddressFault (List Char) := do
  let cs := reference.toList
  if referenceLimit < cs.length || cs.any isControl then throw .malformed
  let (scheme, r) := takeScheme cs
  let (who, r) := takeAuthority r
  let authority := Authority.ofChars who
  let path := dropQuery r
  if !authority.isValid then throw .malformed
  let bare := scheme.isEmpty && authority.isEmpty
  if bare && (path.take 2 = ['/', '/'] || path.head? = some ':') then throw .malformed
  if scheme.isEmpty || authority.host.isEmpty then
    let own := if bare then path else resolveDots path
    pure (arriving ('/' :: own.dropWhile (· == '/')))
  else
    checkScheme scheme
    pure (arriving path)

end CloudScaffold.Server
