/-!
# Text in bytes

Text in UTF-8. Reading never fails: bytes that start no character, or start one that does not go on,
read as one replacement character, and reading goes on with the first byte that did not fit. Text
that was written reads back (`readUtf8_encode`).
-/
namespace CloudScaffold.Text

/-- A character that has begun. -/
structure Begun where
  /-- How many bytes are still to come. -/
  more : Nat
  /-- The bits of the bytes so far. -/
  bits : Nat
  /-- The least and the greatest value of the next byte. -/
  low : Nat := 0x80
  high : Nat := 0xbf

/-- The character that a byte begins, if more bytes belong to it. The bounds leave out numbers that
fewer bytes write, halves of pairs, and numbers beyond the last character. -/
def Begun.ofByte? (b : Nat) : Option Begun :=
  if 0xc2 ≤ b ∧ b ≤ 0xdf then some { more := 1, bits := b % 32 }
  else if 0xe0 ≤ b ∧ b ≤ 0xef then
    some { more := 2, bits := b % 16
           low := if b = 0xe0 then 0xa0 else 0x80
           high := if b = 0xed then 0x9f else 0xbf }
  else if 0xf0 ≤ b ∧ b ≤ 0xf4 then
    some { more := 3, bits := b % 8
           low := if b = 0xf0 then 0x90 else 0x80
           high := if b = 0xf4 then 0x8f else 0xbf }
  else none

/-- Reads bytes behind those of a character that has begun, if one has. -/
def readUtf8After : Option Begun → List Nat → List Char
  | none, [] => []
  | some _, [] => ['\ufffd']
  | begun?, b :: r =>
    let anew :=
      if b < 0x80 then .ofNat b :: readUtf8After none r
      else match Begun.ofByte? b with
        | some begun => readUtf8After (some begun) r
        | none => '\ufffd' :: readUtf8After none r
    match begun? with
    | none => anew
    | some begun =>
      if begun.low ≤ b ∧ b ≤ begun.high then
        let bits := 64 * begun.bits + b % 64
        if begun.more = 1 then .ofNat bits :: readUtf8After none r
        else readUtf8After (some { more := begun.more - 1, bits := bits }) r
      else '\ufffd' :: anew

/-- Reads bytes as text. -/
def readUtf8 (bytes : List Nat) : List Char := readUtf8After none bytes

/-- One more byte of a character that goes on behind it. -/
theorem readUtf8After_more {begun : Begun} {b : Nat} (r : List Nat) (low : begun.low ≤ b)
    (high : b ≤ begun.high) (more : begun.more ≠ 1) :
    readUtf8After (some begun) (b :: r)
      = readUtf8After (some { more := begun.more - 1, bits := 64 * begun.bits + b % 64 }) r := by
  simp [readUtf8After, low, high, more]

/-- The last byte of a character. -/
theorem readUtf8After_last {begun : Begun} {b : Nat} (r : List Nat) (low : begun.low ≤ b)
    (high : b ≤ begun.high) (last : begun.more = 1) :
    readUtf8After (some begun) (b :: r)
      = .ofNat (64 * begun.bits + b % 64) :: readUtf8After none r := by
  simp [readUtf8After, low, high, last]

/-- The first byte of a character that goes on behind it. -/
theorem readUtf8After_first {begun : Begun} {b : Nat} (r : List Nat)
    (h : Begun.ofByte? b = some begun) (wide : 0x80 ≤ b) :
    readUtf8After none (b :: r) = readUtf8After (some begun) r := by
  simp [readUtf8After, h, Nat.not_lt.2 wide]

theorem readUtf8_encode_append (c : Char) (r : List Nat) :
    readUtf8 ((String.utf8EncodeChar c).map UInt8.toNat ++ r) = c :: readUtf8 r := by
  have valid := c.valid
  simp only [UInt32.isValidChar, Nat.isValidChar] at valid
  have back : ∀ n, n = c.val.toNat → Char.ofNat n = c := fun n h => h ▸ Char.ofNat_toNat c
  have byte : ∀ n, n < 256 → (UInt8.ofNat n).toNat = n := fun n h => by simp; omega
  unfold readUtf8
  fun_cases String.utf8EncodeChar c with
  | case1 v h =>
    simp only [List.map_cons, List.map_nil, List.cons_append, List.nil_append, byte v (by omega)]
    rw [readUtf8After, back v rfl]
    simp only [if_pos (show v < 0x80 by omega)]
  | case2 v _ h =>
    simp only [List.map_cons, List.map_nil, List.cons_append, List.nil_append]
    rw [byte _ (by omega), byte _ (by omega), readUtf8After_first _ (if_pos (by omega)) (by omega),
      readUtf8After_last _ (by simp) (by simp; omega) rfl, back _ (by simp only; omega)]
  | case3 v _ _ h =>
    simp only [List.map_cons, List.map_nil, List.cons_append, List.nil_append]
    rw [byte _ (by omega), byte _ (by omega), byte _ (by omega),
      readUtf8After_first _ ((if_neg (by omega)).trans (if_pos (by omega))) (by omega),
      readUtf8After_more _ (by simp only; split <;> omega) (by simp only; split <;> omega)
        (by simp),
      readUtf8After_last _ (by simp) (by simp; omega) rfl, back _ (by simp only; omega)]
  | case4 v _ _ h =>
    simp only [List.map_cons, List.map_nil, List.cons_append, List.nil_append]
    rw [byte _ (by omega), byte _ (by omega), byte _ (by omega), byte _ (by omega),
      readUtf8After_first _
        ((if_neg (by omega)).trans ((if_neg (by omega)).trans (if_pos (by omega)))) (by omega),
      readUtf8After_more _ (by simp only; split <;> omega) (by simp only; split <;> omega)
        (by simp),
      readUtf8After_more _ (by simp) (by simp; omega) (by simp),
      readUtf8After_last _ (by simp) (by simp; omega) rfl, back _ (by simp only; omega)]

theorem readUtf8_encode (cs : List Char) :
    readUtf8 (cs.flatMap fun c => (String.utf8EncodeChar c).map UInt8.toNat) = cs := by
  induction cs with
  | nil => rfl
  | cons c r ih => rw [List.flatMap_cons, readUtf8_encode_append, ih]

end CloudScaffold.Text
