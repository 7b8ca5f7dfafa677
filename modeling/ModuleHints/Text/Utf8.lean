/-!
# Reading UTF-8 that may be broken

Bytes that form no character are read as replacement characters: one for each byte that can begin
nothing, and one for each character that is broken off, however many of its bytes are there.
-/

namespace ModuleHints.Text

/-- What stands for bytes that form no character. -/
def replacement : Char := '\uFFFD'

/-- A character of which some bytes have been read. -/
structure PartialChar where
  /-- How many bytes are still to come. -/
  missing : Nat
  /-- The bits read so far. -/
  bits : Nat
  /-- The least value of the next byte. -/
  lo : Nat
  /-- The greatest value of the next byte. -/
  hi : Nat
  deriving DecidableEq, Repr

/-- The character that a leading byte begins. The bounds on the next byte leave out overlong forms,
surrogates and values beyond the last code point. -/
def leading? (b : Nat) : Option PartialChar :=
  if 0xC2 ≤ b ∧ b ≤ 0xDF then some ⟨1, b - 0xC0, 0x80, 0xBF⟩
  else if b = 0xE0 then some ⟨2, 0, 0xA0, 0xBF⟩
  else if b = 0xED then some ⟨2, 0xD, 0x80, 0x9F⟩
  else if 0xE1 ≤ b ∧ b ≤ 0xEF then some ⟨2, b - 0xE0, 0x80, 0xBF⟩
  else if b = 0xF0 then some ⟨3, 0, 0x90, 0xBF⟩
  else if 0xF1 ≤ b ∧ b ≤ 0xF3 then some ⟨3, b - 0xF0, 0x80, 0xBF⟩
  else if b = 0xF4 then some ⟨3, 4, 0x80, 0x8F⟩
  else none

/-- The characters that bytes write, the first of which may go on with a character already begun. -/
def decodeLossy (begun : Option PartialChar) : List Nat → List Char
  | [] => if begun.isSome then [replacement] else []
  | b :: rest =>
    match begun with
    | some p =>
      if p.lo ≤ b ∧ b ≤ p.hi then
        let bits := p.bits * 64 + (b - 0x80)
        if p.missing ≤ 1 then Char.ofNat bits :: decodeLossy none rest
        else decodeLossy (some ⟨p.missing - 1, bits, 0x80, 0xBF⟩) rest
      else if b < 0x80 then replacement :: Char.ofNat b :: decodeLossy none rest
      else
        match leading? b with
        | some q => replacement :: decodeLossy (some q) rest
        | none => replacement :: replacement :: decodeLossy none rest
    | none =>
      if b < 0x80 then Char.ofNat b :: decodeLossy none rest
      else
        match leading? b with
        | some q => decodeLossy (some q) rest
        | none => replacement :: decodeLossy none rest

end ModuleHints.Text
