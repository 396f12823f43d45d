/-!
# A cursor in the text of a document

The rest of the text, and how far the cursor has come: characters, lines, and characters of the
line. Line feed, next line, line separator and paragraph separator end a line; a byte order mark
takes no column.

A cursor also knows the furthest place that was looked at. It looks at the character that it comes
to, and who looks further ahead says so by `look`.

Every move shortens the rest or leaves it: `length_rest_step_lt`, `length_rest_skipWhile_le`,
`length_rest_lineBreak?_lt`, `length_rest_advance_le`. The loops of the scanner end by these lemmas.
-/

namespace Credentials.Yaml

/-! ## Characters -/

/-- A character that ends a line. -/
def isBreak (c : Char) : Bool :=
  c == '\n' || c == Char.ofNat 0x85 || c == Char.ofNat 0x2028 || c == Char.ofNat 0x2029

/-- A space or a tab. -/
def isSpace (c : Char) : Bool := c == ' ' || c == '\t'

/-- The end of the text or of a line. -/
def endsLine : Option Char → Bool
  | none => true
  | some c => isBreak c

/-- The end of the text or of a line, or a space. -/
def endsWord : Option Char → Bool
  | none => true
  | some c => isBreak c || c == ' '

/-- The end of the text or of a line, a space or a tab. -/
def isGap : Option Char → Bool
  | none => true
  | some c => isBreak c || isSpace c

/-- A character of a name: an ASCII letter or digit, a hyphen or an underscore. -/
def isNameChar (c : Char) : Bool := c.isAlphanum || c == '-' || c == '_'

/-- A character of a tag. -/
def isUriChar (c : Char) : Bool := c.isAlphanum || "-;/?:@&=+$,_.!~*'()[]%".toList.contains c

/-! ## The cursor -/

/-- A place in a text. -/
structure Cursor where
  rest : List Char
  index : Nat
  line : Nat
  column : Nat
  /-- The furthest place that was looked at. -/
  seen : Nat

namespace Cursor

/-- The start of a text. -/
def ofChars (cs : List Char) : Cursor := ⟨cs, 0, 0, 0, 0⟩

/-- With a look at the character some places further on. -/
def look (n : Nat) (c : Cursor) : Cursor := { c with seen := max c.seen (c.index + n) }

/-- The character at the cursor. -/
def peek (c : Cursor) : Option Char := c.rest.head?

/-- The character some places further on. -/
def peekAt (c : Cursor) (n : Nat) : Option Char := c.rest[n]?

/-- Whether the character at the cursor is a given one. -/
def at? (c : Cursor) (x : Char) : Bool := c.peek == some x

/-- Whether the character at the cursor is of a class. -/
def sees (c : Cursor) (p : Char → Bool) : Bool := c.peek.any p

/-- Past one character. -/
def step (c : Cursor) : Cursor :=
  match c.rest with
  | [] => c
  | x :: r =>
    let seen := max c.seen (c.index + 1)
    if isBreak x then ⟨r, c.index + 1, c.line + 1, 0, seen⟩
    else ⟨r, c.index + 1, c.line, if x.toNat = 0xFEFF then c.column else c.column + 1, seen⟩

/-- Past a number of characters. -/
def advance : Nat → Cursor → Cursor
  | 0, c => c
  | n + 1, c => advance n c.step

/-- Past all characters of a class, with the characters. -/
def takeWhile (p : Char → Bool) (c : Cursor) : List Char × Cursor :=
  let taken := c.rest.takeWhile p
  (taken, advance taken.length c)

/-- Past all characters of a class. -/
def skipWhile (p : Char → Bool) (c : Cursor) : Cursor := (c.takeWhile p).2

/-- Past the end of a line, if one is here, with the character that it stands for: a line or
paragraph separator for itself, and every other end for a line feed. -/
def lineBreak? (c : Cursor) : Option (Char × Cursor) :=
  match c.rest with
  | x :: _ =>
    if isBreak x then
      some (if x == Char.ofNat 0x2028 || x == Char.ofNat 0x2029 then x else '\n', c.step)
    else none
  | [] => none

/-- Past the end of a line, if one is here. -/
def skipBreak (c : Cursor) : Cursor := (c.lineBreak?.map (·.2)).getD c

/-- Past a comment, if one starts here. -/
def skipComment (c : Cursor) : Cursor := if c.at? '#' then c.skipWhile (!isBreak ·) else c

/-- Whether three equal marks stand here at the start of a line, with a gap after them. -/
def separator? (c : Cursor) (mark : Char) : Bool :=
  c.rest.take 3 == [mark, mark, mark] && isGap (c.peekAt 3)

/-- Whether a mark between documents stands here. -/
def documentMark? (c : Cursor) : Bool := c.separator? '-' || c.separator? '.'

/-- With the looks that it takes to find a mark between documents: at three characters and, if they
are such a mark, at the one after them. -/
def lookForMark (c : Cursor) : Cursor :=
  let start := c.rest.take 3
  c.look (if start = ['-', '-', '-'] ∨ start = ['.', '.', '.'] then 3 else 2)

/-! ## Every move shortens the rest or leaves it -/

theorem length_rest_step (c : Cursor) : c.step.rest.length = c.rest.length - 1 := by
  unfold step
  cases h : c.rest with
  | nil => simp [h]
  | cons x r =>
    dsimp only
    split <;> simp

theorem length_rest_step_lt {c : Cursor} (h : c.rest ≠ []) :
    c.step.rest.length < c.rest.length := by
  have := length_rest_step c
  have : 0 < c.rest.length := List.length_pos_iff.2 h
  omega

theorem length_rest_advance_le (n : Nat) (c : Cursor) :
    (advance n c).rest.length ≤ c.rest.length := by
  induction n generalizing c with
  | zero => exact Nat.le_refl _
  | succ n ih =>
    have h₁ := ih c.step
    have h₂ := length_rest_step c
    simp only [advance]
    omega

theorem length_rest_skipWhile_le (p : Char → Bool) (c : Cursor) :
    (c.skipWhile p).rest.length ≤ c.rest.length :=
  length_rest_advance_le _ _

theorem length_rest_skipComment_le (c : Cursor) : c.skipComment.rest.length ≤ c.rest.length := by
  unfold skipComment
  split
  · exact length_rest_skipWhile_le _ _
  · exact Nat.le_refl _

theorem length_rest_lineBreak?_lt {c c' : Cursor} {x : Char} (h : c.lineBreak? = some (x, c')) :
    c'.rest.length < c.rest.length := by
  unfold lineBreak? at h
  split at h
  · next y r hr =>
    split at h
    · obtain ⟨-, rfl⟩ := Prod.mk.inj (Option.some.inj h)
      exact length_rest_step_lt (by simp [hr])
    · simp at h
  · simp at h

end Cursor

end Credentials.Yaml
