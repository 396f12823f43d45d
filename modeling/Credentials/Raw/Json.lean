import Credentials.Raw.Render

/-!
# Raw values as JSON

Two layouts of one notation: everything on one line without blanks, or one entry to a line, indented
by two for every level and with the keys in increasing order. Texts are written in ASCII; a number
that is not finite is null, and a value that JSON has no form for is written as the text of its
display.
-/

namespace Credentials

open Text

namespace Raw

/-- The two halves of a pair of code units for a character outside the basic plane. -/
def surrogates (n : Nat) : List Nat :=
  let m := n - 0x10000
  [0xD800 + m / 0x400, 0xDC00 + m % 0x400]

/-- One character of a JSON text. -/
def jsonChar (c : Char) : List Char :=
  let unit (n : Nat) : List Char := '\\' :: 'u' :: hexDigits 4 n
  if c = '"' ∨ c = '\\' then ['\\', c]
  else if c = '\n' then ['\\', 'n']
  else if c = '\r' then ['\\', 'r']
  else if c = '\t' then ['\\', 't']
  else if c.toNat = 8 then ['\\', 'b']
  else if c.toNat = 12 then ['\\', 'f']
  else if 0x20 ≤ c.toNat ∧ c.toNat < 0x7F then [c]
  else if c.toNat < 0x10000 then unit c.toNat
  else (surrogates c.toNat).flatMap unit

/-- A JSON text. -/
def jsonText (s : String) : String := "\"" ++ String.ofList (s.toList.flatMap jsonChar) ++ "\""

mutual

/-- A value on one line. -/
def compactJson : Raw → String
  | null => "null"
  | bool b => if b then "true" else "false"
  | int n => toString n
  | float x => if x.isFinite then Decimal.render x else "null"
  | nan _ _ => "null"
  | list xs | tuple xs | set xs => "[" ++ ",".intercalate (compactItems xs) ++ "]"
  | map entries => "\x7b" ++ ",".intercalate (compactEntries entries) ++ "\x7d"
  | v => jsonText v.display

/-- The items of a list, each on one line. -/
def compactItems : List Raw → List String
  | [] => []
  | x :: xs => compactJson x :: compactItems xs

/-- The entries of a map, each on one line. -/
def compactEntries : List (Raw × Raw) → List String
  | [] => []
  | (k, v) :: r => (jsonText k.display ++ ":" ++ compactJson v) :: compactEntries r

end

/-- A line break and the indentation of a level. -/
def newLine (level : Nat) : String := "\n" ++ String.ofList (List.replicate (2 * level) ' ')

/-- Lines between two brackets, or the bare brackets. -/
def block (opening closing : String) (level : Nat) (items : List String) : String :=
  if items.isEmpty then opening ++ closing
  else
    opening ++ newLine (level + 1) ++ ("," ++ newLine (level + 1)).intercalate items
      ++ newLine level ++ closing

/-- Keyed texts in increasing order of the keys. -/
def byKey (xs : List (String × String)) : List (String × String) :=
  xs.mergeSort fun a b => decide (a.1 ≤ b.1)

mutual

/-- A value over several lines, its keys in increasing order. -/
def indentedJson (level : Nat) : Raw → String
  | list xs => block "[" "]" level (indentedItems (level + 1) xs)
  | map entries =>
    block "\x7b" "\x7d" level
      ((byKey (indentedEntries (level + 1) entries)).map fun p => jsonText p.1 ++ ": " ++ p.2)
  | v => compactJson v

/-- The items of a list over several lines. -/
def indentedItems (level : Nat) : List Raw → List String
  | [] => []
  | x :: xs => indentedJson level x :: indentedItems level xs

/-- The keys and values of a map over several lines. -/
def indentedEntries (level : Nat) : List (Raw × Raw) → List (String × String)
  | [] => []
  | (k, v) :: r => (k.display, indentedJson level v) :: indentedEntries level r

end

end Raw

end Credentials
