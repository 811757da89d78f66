/-
Bytes as text where they may not be the encoding of a text.

`decode` reads UTF-8 and puts the replacement character in the place of every longest piece that
begins like a character and does not go on like one, and of every byte that begins none.
-/

namespace StaticSite.Text.Utf8

/-- The number of bytes that follow the first byte of a character, the bounds of the second byte,
and the bits that the first byte adds. -/
def lead? (b : Nat) : Option (Nat × Nat × Nat × Nat) :=
  if b < 0x80 then some (0, 0, 0, b)
  else if 0xc2 ≤ b ∧ b ≤ 0xdf then some (1, 0x80, 0xbf, b - 0xc0)
  else if b = 0xe0 then some (2, 0xa0, 0xbf, 0)
  else if b = 0xed then some (2, 0x80, 0x9f, 0xd)
  else if 0xe1 ≤ b ∧ b ≤ 0xef then some (2, 0x80, 0xbf, b - 0xe0)
  else if b = 0xf0 then some (3, 0x90, 0xbf, 0)
  else if 0xf1 ≤ b ∧ b ≤ 0xf3 then some (3, 0x80, 0xbf, b - 0xf0)
  else if b = 0xf4 then some (3, 0x80, 0x8f, 4)
  else none

/-- Read `more` further bytes, of which the first is within bounds: the code point, or the
replacement character, and the number of bytes read. -/
def readTail (low high value : Nat) : Nat → List UInt8 → Char × Nat
  | 0, _ => (Char.ofNat value, 0)
  | _ + 1, [] => ('\ufffd', 0)
  | more + 1, b :: rest =>
    if low ≤ b.toNat ∧ b.toNat ≤ high then
      let (c, count) := readTail 0x80 0xbf (value * 64 + (b.toNat - 0x80)) more rest
      (c, count + 1)
    else ('\ufffd', 0)

/-- The characters of bytes. -/
def decode (bytes : List UInt8) : List Char :=
  match bytes with
  | [] => []
  | b :: rest =>
    match lead? b.toNat with
    | none => '\ufffd' :: decode rest
    | some (more, low, high, value) =>
      let (c, count) := readTail low high value more rest
      c :: decode (rest.drop count)
termination_by bytes.length
decreasing_by
  · simp
  · simp only [List.length_drop, List.length_cons]; omega

end StaticSite.Text.Utf8
