import Credentials.Text.Visible

/-!
# Quoted texts

The form in which messages quote a text: single quotes, or double quotes when the text holds a
single quote and no double one. A backslash and the quote in use are escaped by a backslash, a line
feed, a carriage return and a tab by their letters, and every other character without a visible form
by its code point in hexadecimal. Bytes are quoted by the same rule after the letter `b`, where only
the printable ASCII characters are shown.

-/

namespace Credentials.Text

/-- The lower-case hexadecimal digits of `n`, the last `width` of them. -/
def hexDigits : Nat → Nat → List Char
  | 0, _ => []
  | width + 1, n => hexDigits width (n / 16) ++ [Nat.digitChar (n % 16)]

/-- The quote that encloses a text: double only if that spares an escape. -/
def quoteFor (cs : List Char) : Char :=
  if cs.contains '\'' && !cs.contains '"' then '"' else '\''

/-- The code point as an escape of the shortest of the three widths that holds it. -/
def escapeCode (n : Nat) : List Char :=
  if n < 0x100 then '\\' :: 'x' :: hexDigits 2 n
  else if n < 0x10000 then '\\' :: 'u' :: hexDigits 4 n
  else '\\' :: 'U' :: hexDigits 8 n

/-- One character inside the quotes; `shown` says which characters stand for themselves. -/
def escapeWith (shown : Char → Bool) (quote c : Char) : List Char :=
  if c = quote ∨ c = '\\' then ['\\', c]
  else if c = '\n' then ['\\', 'n']
  else if c = '\r' then ['\\', 'r']
  else if c = '\t' then ['\\', 't']
  else if shown c then [c]
  else escapeCode c.toNat

/-- One character of a quoted text. -/
def escapeChar (quote c : Char) : List Char := escapeWith isVisible quote c

/-- The characters of a text between their quotes. -/
def quoteChars (cs : List Char) : List Char :=
  let quote := quoteFor cs
  quote :: (cs.flatMap (escapeChar quote) ++ [quote])

/-- The text between its quotes. -/
def quoted (s : String) : String := String.ofList (quoteChars s.toList)

/-- Bytes between their quotes, after the letter `b`. -/
def quotedBytes (bs : List UInt8) : String :=
  let cs := bs.map fun b => Char.ofNat b.toNat
  let quote := quoteFor cs
  String.ofList
    ('b' :: quote :: (cs.flatMap (escapeWith (fun c => 0x20 ≤ c.toNat && c.toNat < 0x7F) quote)
      ++ [quote]))

end Credentials.Text
