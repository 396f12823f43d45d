/-!
# Classes of characters

The 29 characters that count as blank when a value is tested for emptiness and when the spelling of
a role is trimmed; every character that core calls whitespace is one of them. And the decimal
digits: number texts may use those of any script of Unicode 14. Each script has its ten digits in a
row, so the table holds only the code point of each zero.
-/

namespace Credentials.Text

/-! ## Blanks -/

/-- A blank: the ASCII and Latin-1 separators, the Unicode spaces, and the two Unicode line
separators. -/
def isBlankChar (c : Char) : Bool :=
  let n := c.toNat
  (0x09 ≤ n && n ≤ 0x0D) || (0x1C ≤ n && n ≤ 0x20) || n == 0x85 || n == 0xA0 || n == 0x1680
    || (0x2000 ≤ n && n ≤ 0x200A) || n == 0x2028 || n == 0x2029 || n == 0x202F || n == 0x205F
    || n == 0x3000

/-- A text with nothing but blanks, the empty text included. -/
def isBlank (s : String) : Bool := s.toList.all isBlankChar

/-- The characters without the blanks at either end. -/
def trimChars (cs : List Char) : List Char :=
  ((cs.dropWhile isBlankChar).reverse.dropWhile isBlankChar).reverse

/-- The characters without a line feed at the end. Of several only the last is dropped. -/
def dropFinalLineFeed : List Char → List Char
  | [] => []
  | ['\n'] => []
  | c :: r => c :: dropFinalLineFeed r

/-! ## Decimal digits -/

/-- The code point of the zero of every script with decimal digits. -/
def digitZeros : List Nat :=
  [
    0x30, 0x660, 0x6F0, 0x7C0, 0x966, 0x9E6, 0xA66, 0xAE6, 0xB66, 0xBE6,
    0xC66, 0xCE6, 0xD66, 0xDE6, 0xE50, 0xED0, 0xF20, 0x1040, 0x1090, 0x17E0,
    0x1810, 0x1946, 0x19D0, 0x1A80, 0x1A90, 0x1B50, 0x1BB0, 0x1C40, 0x1C50, 0xA620,
    0xA8D0, 0xA900, 0xA9D0, 0xA9F0, 0xAA50, 0xABF0, 0xFF10, 0x104A0, 0x10D30, 0x11066,
    0x110F0, 0x11136, 0x111D0, 0x112F0, 0x11450, 0x114D0, 0x11650, 0x116C0, 0x11730, 0x118E0,
    0x11950, 0x11C50, 0x11D50, 0x11DA0, 0x16A60, 0x16AC0, 0x16B50, 0x1D7CE, 0x1D7D8, 0x1D7E2,
    0x1D7EC, 0x1D7F6, 0x1E140, 0x1E2F0, 0x1E950, 0x1FBF0]

/-- The value of a decimal digit of any script. -/
def digitValue? (c : Char) : Option Nat :=
  (digitZeros.find? fun z => z ≤ c.toNat && c.toNat < z + 10).map fun z => c.toNat - z

/-- The value of a digit of a base up to 36: a decimal digit of any script, or an ASCII letter. -/
def digitIn? (base : Nat) (c : Char) : Option Nat :=
  let value :=
    if 'a'.toNat ≤ c.toNat ∧ c.toNat ≤ 'z'.toNat then some (c.toNat - 'a'.toNat + 10)
    else if 'A'.toNat ≤ c.toNat ∧ c.toNat ≤ 'Z'.toNat then some (c.toNat - 'A'.toNat + 10)
    else digitValue? c
  value.filter (· < base)

/-- An ASCII hexadecimal digit's value. -/
def hexValue? (c : Char) : Option Nat :=
  if c.toNat < 0x80 then digitIn? 16 c else none

end Credentials.Text
