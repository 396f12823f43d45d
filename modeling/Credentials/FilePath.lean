import Credentials.Text.Pieces

/-!
# Paths of files

A path is shown without what does not matter to it: repeated separators, single dots and a separator
at its end. Steps to the parent directory stay, because what they lead to depends on the
directories. The empty path is the single dot. One separator at the start makes a path absolute, and
so do three or more; exactly two are kept as they are.

Main statement: `FilePath.steps_normalize`, a path and its shown form take the same steps.
-/

namespace Credentials.FilePath

open Text

/-- The separator of segments. -/
def separator : Char := '/'

/-- The segments of a path, the empty ones and single dots included. -/
def segments (path : String) : List (List Char) := pieces separator path.toList

/-- Whether a segment leads anywhere. -/
def isStep (segment : List Char) : Bool := segment != [] && segment != ['.']

/-- The steps of a path. -/
def steps (path : String) : List (List Char) := (segments path).filter isStep

/-- The separators that a shown path starts with. -/
def root (path : String) : List Char :=
  match (path.toList.takeWhile (· == separator)).length with
  | 0 => []
  | 2 => [separator, separator]
  | _ => [separator]

/-- The path as it is shown. -/
def normalize (path : String) : String :=
  match root path ++ join separator (steps path) with
  | [] => "."
  | cs => String.ofList cs

/-! ## The steps of a shown path -/

theorem filter_pieces_join_steps (path : String) :
    (pieces separator (join separator (steps path))).filter isStep = steps path := by
  by_cases h : steps path = []
  · simp [h, join, pieces, isStep]
  · rw [pieces_join h fun p hp => not_mem_of_mem_pieces (List.mem_filter.1 hp).1]
    simp [steps, List.filter_filter]

theorem filter_pieces_root_append (path : String) (cs : List Char) :
    (pieces separator (root path ++ cs)).filter isStep = (pieces separator cs).filter isStep := by
  unfold root
  split <;> simp [isStep]

theorem steps_normalize (path : String) : steps (normalize path) = steps path := by
  have h := filter_pieces_root_append path (join separator (steps path))
  rw [filter_pieces_join_steps] at h
  unfold normalize
  split
  · next e =>
    rw [e] at h
    rw [← h]
    decide
  · rw [steps, segments, String.toList_ofList, h]

end Credentials.FilePath
