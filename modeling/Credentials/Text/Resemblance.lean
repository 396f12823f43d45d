/-!
# Texts that resemble each other

How alike two texts are, for guesses at what a misspelled word was meant to be. Two texts share
their longest common block and, in turn, what the parts before it and the parts behind it share.
Their resemblance is the share of all their characters that stand in these blocks.

`closest` picks the best few of some candidates. The recursion of `shared` ends because a block is
not empty, so the parts on either side of it are shorter than the first text.

Main statements: `length_closest_le` and `mem_of_mem_closest`, a few of the candidates and nothing
else are picked.
-/

namespace Credentials.Text

/-! ## Common blocks -/

/-- A run of characters that stands in two texts, by where it starts in each. -/
structure Block where
  left : Nat
  right : Nat
  size : Nat
  deriving DecidableEq, Repr

/-- How many characters two texts have in common at their start. -/
def commonStart : List Char → List Char → Nat
  | x :: xs, y :: ys => if x = y then commonStart xs ys + 1 else 0
  | _, _ => 0

/-- The better of a block and the blocks that start at one place of the first text and anywhere from
a place of the second on. Only a longer block is better. -/
def longestAt (xs : List Char) (left right : Nat) (best : Block) : List Char → Block
  | [] => best
  | y :: ys =>
    let size := commonStart xs (y :: ys)
    longestAt xs left (right + 1) (if best.size < size then ⟨left, right, size⟩ else best) ys

/-- The better of a block and the blocks that start anywhere from a place of the first text on. -/
def longestFrom (ys : List Char) (left : Nat) (best : Block) : List Char → Block
  | [] => best
  | x :: xs => longestFrom ys (left + 1) (longestAt (x :: xs) left 0 best ys) xs

/-- The longest common block: of several the one that starts first in the first text, and then the
one that starts first in the second. -/
def longestBlock (xs ys : List Char) : Block := longestFrom ys 0 ⟨0, 0, 0⟩ xs

/-- How many characters of the first text stand in common blocks. -/
def shared (xs ys : List Char) : Nat :=
  match longestBlock xs ys with
  | ⟨left, right, size⟩ =>
    if _h : 0 < size ∧ left < xs.length then
      size + shared (xs.take left) (ys.take right)
        + shared (xs.drop (left + size)) (ys.drop (right + size))
    else 0
termination_by xs.length
decreasing_by
  all_goals
    simp only [List.length_take, List.length_drop]
    omega

/-! ## Close candidates -/

/-- A candidate with the number of characters that it shares with a word. -/
structure Likeness where
  candidate : String
  sharedCount : Nat
  total : Nat

/-- How a candidate resembles a word. -/
def likeness (word candidate : String) : Likeness :=
  ⟨candidate, shared candidate.toList word.toList, candidate.length + word.length⟩

/-- Whether three fifths of all characters are shared, and so whether a candidate is close. A text
that is much longer than the other cannot be close, and then nothing is compared. -/
def isClose (word candidate : String) : Bool :=
  let n := candidate.length
  let m := word.length
  let l := likeness word candidate
  3 * (n + m) ≤ 10 * min n m && 3 * l.total ≤ 10 * l.sharedCount

/-- Whether the first candidate goes before the second: it shares more or, if both share as much,
is the greater text. -/
def Likeness.before (a b : Likeness) : Bool :=
  let x := a.sharedCount * b.total
  let y := b.sharedCount * a.total
  y < x || (x == y && decide (b.candidate ≤ a.candidate))

/-- At most three candidates that are close to a word, the closest first. -/
def closest (candidates : List String) (word : String) : List String :=
  ((((candidates.filter (isClose word)).map (likeness word)).mergeSort Likeness.before).take 3).map
    Likeness.candidate

theorem length_closest_le (candidates : List String) (word : String) :
    (closest candidates word).length ≤ 3 := by
  simp only [closest, List.length_map, List.length_take]
  omega

theorem mem_of_mem_closest {candidates : List String} {word c : String}
    (h : c ∈ closest candidates word) : c ∈ candidates := by
  obtain ⟨l, hl, rfl⟩ := List.mem_map.1 h
  obtain ⟨d, hd, rfl⟩ := List.mem_map.1 (List.mem_mergeSort.1 (List.mem_of_mem_take hl))
  exact (List.mem_filter.1 hd).1

end Credentials.Text
