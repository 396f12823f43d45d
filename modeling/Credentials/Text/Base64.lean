/-!
# Base 64

Six bits to a character. Reading skips every character outside the alphabet and stops at padding
that completes a group of four; a group of one character, or an unpadded one of two or three, is a
fault.
-/

namespace Credentials.Text.Base64

/-- The six bits of a character of the alphabet. -/
def value? (c : Char) : Option Nat :=
  let n := c.toNat
  if 65 ≤ n ∧ n ≤ 90 then some (n - 65)
  else if 97 ≤ n ∧ n ≤ 122 then some (n - 71)
  else if 48 ≤ n ∧ n ≤ 57 then some (n + 4)
  else if c = '+' then some 62
  else if c = '/' then some 63
  else none

/-- Reads on within a group of which `filled` characters have been read; `left` are the bits of the
last one that are still to be used, `pads` the padding since then. -/
def read (filled left pads : Nat) : List Char → Option (List UInt8)
  | [] => if filled = 0 then some [] else none
  | c :: r =>
    if c = '=' then
      if 2 ≤ filled ∧ 4 ≤ filled + pads + 1 then some []
      else read filled left (if 2 ≤ filled then pads + 1 else pads) r
    else
      match value? c with
      | none => read filled left pads r
      | some v =>
        match filled with
        | 0 => read 1 v 0 r
        | 1 => (read 2 (v % 16) 0 r).map (UInt8.ofNat (left * 4 + v / 16) :: ·)
        | 2 => (read 3 (v % 4) 0 r).map (UInt8.ofNat (left * 16 + v / 4) :: ·)
        | _ => (read 0 0 0 r).map (UInt8.ofNat (left * 64 + v) :: ·)

/-- The bytes of a text. -/
def decode? (cs : List Char) : Option (List UInt8) := read 0 0 0 cs

end Credentials.Text.Base64
