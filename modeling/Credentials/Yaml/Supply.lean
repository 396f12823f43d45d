import Credentials.Text.Utf8
import Credentials.Yaml.Token.Basic

/-!
# The supply of a document's text

A document is bytes. They must be a text in UTF-8; its line ends, in whichever of the three customs,
become line feeds; and every character must be one that a document may hold.

The text is supplied in pieces of 4096 characters: two pieces at the start, and then each piece when
a place in it is looked at. So what is wrong with a piece is a `Limit` of the text, and only who
looks as far as that piece meets it. The bytes of the text are had in chunks, the first of 8192
bytes and the later ones as long as the characters still wanted will take, by the ratio of bytes to
characters in the chunk before, if that is longer; bytes that are no text are noticed with their
chunk (`readableChars`).

Main statement: `textOf_toUTF8`, the bytes of a text give that text with its line ends made alike.
-/

namespace Credentials.Yaml

open Text

/-! ## Characters -/

/-- The characters that a document may hold: tab, line feed, carriage return, next line, and every
other character that is no control code. -/
def isAllowed (c : Char) : Bool :=
  let n := c.toNat
  n == 0x09 || n == 0x0A || n == 0x0D || (0x20 ≤ n && n ≤ 0x7E) || n == 0x85
    || (0xA0 ≤ n && n ≤ 0xFFFD) || 0x10000 ≤ n

/-- A line ends at a carriage return, at a line feed, or at both in this order; a line feed takes
the place of each. -/
def unifyBreaks : List Char → List Char
  | [] => []
  | c :: r =>
    if c = '\r' then
      match r with
      | '\n' :: s => '\n' :: unifyBreaks s
      | s => '\n' :: unifyBreaks s
    else c :: unifyBreaks r

/-! ## Pieces -/

/-- How many characters a piece has. -/
def pieceSize : Nat := 4096

/-- The first place of the piece that a place is in; the first two pieces come as one. -/
def pieceStart (place : Nat) : Nat :=
  if place < 2 * pieceSize then 0 else pieceSize * (place / pieceSize)

/-- The limit that a forbidden character sets to a text. -/
def forbiddenLimit (cs : List Char) : Option Limit :=
  (cs.findIdx? fun c => !isAllowed c).map fun place => ⟨pieceStart place, .forbiddenCharacter⟩

/-! ## Chunks -/

/-- Line ends as line feeds, each at the place where it is certain: whether a line feed belongs to a
carriage return shows only at the next character. -/
def unifyPlacedBreaks : List (Char × Nat) → List (Char × Nat)
  | [] => []
  | (c, place) :: r =>
    if c = '\r' then
      match r with
      | ('\n', place') :: s => ('\n', place') :: unifyPlacedBreaks s
      | (d, place') :: s => ('\n', place') :: unifyPlacedBreaks ((d, place') :: s)
      | [] => []
    else (c, place) :: unifyPlacedBreaks r

/-- The least number of bytes in a chunk. -/
def chunkSize : Nat := 8192

/-- The number of characters in the pieces that can be read before bytes are met that are no text.
The characters are told by the places behind them; `start` is how far the bytes have been had, and
`count` how many characters they made; the first number bounds the chunks. -/
def readableChars (places : List Nat) (shows : Option Nat) (size : Nat) :
    Nat → Nat → Nat → Float → Nat
  | 0, _, count, _ => pieceSize * (count / pieceSize)
  | chunks + 1, start, count, ratio =>
    let wanted := pieceSize * (count / pieceSize + 1) - count
    let hint := ((if ratio < 1.0 then 1.0 else ratio) * wanted.toFloat).floor.toUInt64.toNat
    let stop := min size (start + max chunkSize hint)
    -- a character that is cut short is a fault only when there are no more bytes
    let noticed := match shows with
      | some place => decide (place ≤ stop)
      | none => stop == start
    if noticed then pieceSize * (count / pieceSize)
    else
      let count' := (places.takeWhile (· ≤ stop)).length
      let ratio' :=
        if count' = count then 0.0 else (stop - start).toFloat / (count' - count).toFloat
      readableChars places shows size chunks stop count' ratio'

/-- The text of bytes, and its limit if they are no text to their end. -/
def textOf (bytes : ByteArray) : List Char × Option Limit :=
  match String.fromUTF8? bytes with
  | some s => (unifyBreaks s.toList, none)
  | none =>
    let decoded := Utf8.decode 0 bytes.toList
    let chars := unifyPlacedBreaks decoded.chars
    let readable :=
      readableChars (chars.map (·.2)) decoded.shows bytes.size (bytes.size / chunkSize + 2) 0 0 0.0
    let place := pieceStart readable
    ((chars.take place).map (·.1), some ⟨place, .undecodable⟩)

theorem textOf_toUTF8 (s : String) : textOf s.toUTF8 = (unifyBreaks s.toList, none) := by
  have h : String.fromUTF8? s.toUTF8 = some s := by
    simp [String.fromUTF8?, String.fromUTF8, s.isValidUTF8]
  simp only [textOf, h]

end Credentials.Yaml
