import CloudScaffold.Text.Points
/-!
# Binary data

Binary data are written in base 64: four characters for three bytes. Characters of no value are
passed over. Padding ends the data where it completes a group of four; data that end inside a group
are refused.
-/
namespace CloudScaffold.Yaml

/-- The value of a character in base 64. -/
def base64Value? (c : Char) : Option Nat :=
  if 'A' ≤ c && c ≤ 'Z' then some (c.toNat - 'A'.toNat)
  else if 'a' ≤ c && c ≤ 'z' then some (c.toNat - 'a'.toNat + 26)
  else if '0' ≤ c && c ≤ '9' then some (c.toNat - '0'.toNat + 52)
  else if c = '+' then some 62
  else if c = '/' then some 63
  else none

/-- The bytes that characters write. `place` counts the characters of the group before them, `left`
holds the bits of these that are still to be used, and `pads` counts the padding so far. -/
def bytesFrom (place left pads : Nat) : List Char → Option (List Nat)
  | [] => if place = 0 then some [] else none
  | c :: r =>
    if c = '=' then
      if place < 2 then bytesFrom place left pads r
      else if 4 ≤ place + pads + 1 then some []
      else bytesFrom place left (pads + 1) r
    else match base64Value? c with
      | none => bytesFrom place left pads r
      | some v => match place with
        | 0 => bytesFrom 1 v 0 r
        | 1 => (bytesFrom 2 (v % 16) 0 r).map fun bs => (4 * left + v / 16) :: bs
        | 2 => (bytesFrom 3 (v % 4) 0 r).map fun bs => (16 * left + v / 4) :: bs
        | _ => (bytesFrom 0 0 0 r).map fun bs => (64 * left + v) :: bs

/-- The bytes of a text in base 64. -/
def bytesOf? (text : Text.Points) : Option (List Nat) :=
  if text.all (· < 128) then bytesFrom 0 0 0 text.chars else none

/-- A byte between quotes. -/
def literalByte (quote : Char) (b : Nat) : List Char :=
  let c := Char.ofNat b
  if c = quote || c = '\\' then ['\\', c]
  else if c = '\t' then ['\\', 't']
  else if c = '\n' then ['\\', 'n']
  else if c = '\r' then ['\\', 'r']
  else if b < 32 || 127 ≤ b then '\\' :: 'x' :: Text.hexDigits 2 b
  else [c]

/-- Bytes as a literal. -/
def bytesLiteral (bs : List Nat) : String :=
  let quote := Text.literalQuote (bs.map Char.ofNat)
  .ofList ('b' :: quote :: bs.flatMap (literalByte quote) ++ [quote])

end CloudScaffold.Yaml
