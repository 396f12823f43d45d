/-!
# Text in UTF-8, up to a fault

The characters that bytes stand for, each with the place behind its last byte, up to the first bytes
that stand for none. What is wrong there shows at a certain byte (`Decoded.shows`), or only at the
end of the bytes if a character is merely cut short.
-/

namespace Credentials.Text.Utf8

/-- How many bytes follow the first byte of a character, and the bounds of the one right after it.
-/
def followers? (b : UInt8) : Option (Nat × UInt8 × UInt8) :=
  if b < 0x80 then some (0, 0x80, 0xBF)
  else if b < 0xC2 then none
  else if b < 0xE0 then some (1, 0x80, 0xBF)
  else if b = 0xE0 then some (2, 0xA0, 0xBF)
  else if b = 0xED then some (2, 0x80, 0x9F)
  else if b < 0xF0 then some (2, 0x80, 0xBF)
  else if b = 0xF0 then some (3, 0x90, 0xBF)
  else if b < 0xF4 then some (3, 0x80, 0xBF)
  else if b = 0xF4 then some (3, 0x80, 0x8F)
  else none

/-- How many of at most a number of bytes follow a first one: the first of them lies between the
bounds, and the others between the widest bounds. -/
def fitting (low high : UInt8) : Nat → List UInt8 → Nat
  | n + 1, b :: r => if low ≤ b ∧ b ≤ high then fitting 0x80 0xBF n r + 1 else 0
  | _, _ => 0

/-- The code point of a first byte and the bytes that follow it. -/
def codePoint (first : UInt8) (following : List UInt8) : Nat :=
  let own :=
    if following.isEmpty then first.toNat else first.toNat % Nat.pow 2 (6 - following.length)
  following.foldl (fun n b => n * 64 + b.toNat % 64) own

/-- Characters with the places behind them, and the place behind the byte that shows a fault. -/
structure Decoded where
  chars : List (Char × Nat)
  shows : Option Nat

/-- The characters of bytes that start at a place. -/
def decode (place : Nat) : List UInt8 → Decoded
  | [] => ⟨[], none⟩
  | b :: r =>
    match followers? b with
    | none => ⟨[], some (place + 1)⟩
    | some (n, low, high) =>
      let fit := fitting low high n r
      if fit < n then ⟨[], if fit < r.length then some (place + fit + 2) else none⟩
      else
        let behind := place + n + 1
        let rest := decode behind (r.drop n)
        ⟨(Char.ofNat (codePoint b (r.take n)), behind) :: rest.chars, rest.shows⟩
termination_by bs => bs.length
decreasing_by
  simp only [List.length_drop, List.length_cons]
  omega

end Credentials.Text.Utf8
