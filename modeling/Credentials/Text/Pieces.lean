/-!
# The pieces of a text

A text falls into pieces at every occurrence of a separator; the separators belong to no piece, and
there is always at least one piece.

Main statements: `join_pieces`, nothing of the text is lost, and `pieces_join`, pieces without the
separator come back as they are.
-/

namespace Credentials.Text

/-- What stands between the separators of a text. -/
def pieces (sep : Char) : List Char → List (List Char)
  | [] => [[]]
  | c :: r =>
    if c = sep then [] :: pieces sep r
    else match pieces sep r with
      | [] => [[c]]
      | p :: ps => (c :: p) :: ps

/-- Pieces with a separator between each two. -/
def join (sep : Char) : List (List Char) → List Char
  | [] => []
  | [p] => p
  | p :: ps => p ++ sep :: join sep ps

theorem pieces_ne_nil (sep : Char) (cs : List Char) : pieces sep cs ≠ [] := by
  cases cs with
  | nil => simp [pieces]
  | cons c r =>
    unfold pieces
    split
    · simp
    · split <;> simp

@[simp] theorem pieces_cons_self (sep : Char) (r : List Char) :
    pieces sep (sep :: r) = [] :: pieces sep r := by simp [pieces]

theorem join_cons_of_ne_nil (sep : Char) (p : List Char) {ps : List (List Char)} (h : ps ≠ []) :
    join sep (p :: ps) = p ++ sep :: join sep ps := by
  cases ps with
  | nil => exact absurd rfl h
  | cons q qs => rfl

theorem join_pieces (sep : Char) (cs : List Char) : join sep (pieces sep cs) = cs := by
  induction cs with
  | nil => rfl
  | cons c r ih =>
    unfold pieces
    split
    · next h => rw [join_cons_of_ne_nil sep [] (pieces_ne_nil sep r), ih, h, List.nil_append]
    · cases hr : pieces sep r with
      | nil => exact absurd hr (pieces_ne_nil sep r)
      | cons p ps =>
        rw [hr] at ih
        cases ps with
        | nil => simpa [join] using ih
        | cons q qs => simpa [join] using ih

theorem not_mem_of_mem_pieces {sep : Char} {cs p : List Char} (h : p ∈ pieces sep cs) :
    sep ∉ p := by
  induction cs generalizing p with
  | nil =>
    have : p = [] := by simpa [pieces] using h
    simp [this]
  | cons c r ih =>
    unfold pieces at h
    split at h
    · rcases List.mem_cons.1 h with rfl | h
      · simp
      · exact ih h
    · next hc =>
      split at h
      · next hr => exact absurd hr (pieces_ne_nil sep r)
      · next q qs hr =>
        rcases List.mem_cons.1 h with rfl | h
        · have := ih (p := q) (by simp [hr])
          simpa [this] using fun e : sep = c => hc e.symm
        · exact ih (by simp [hr, h])

/-- A text that does not hold the separator is one piece. -/
theorem pieces_of_not_mem {sep : Char} {p : List Char} (h : sep ∉ p) : pieces sep p = [p] := by
  induction p with
  | nil => rfl
  | cons c r ih =>
    obtain ⟨hc, hr⟩ : ¬sep = c ∧ sep ∉ r := by simpa using h
    have hne : c ≠ sep := fun e => hc e.symm
    simp [pieces, hne, ih hr]

/-- What stands before a separator and what stands behind it fall into pieces apart. -/
theorem pieces_append_sep (sep : Char) (cs ds : List Char) :
    pieces sep (cs ++ sep :: ds) = pieces sep cs ++ pieces sep ds := by
  induction cs with
  | nil => exact pieces_cons_self sep ds
  | cons c r ih =>
    rw [List.cons_append, pieces, pieces, ih]
    split
    · rfl
    · cases hr : pieces sep r with
      | nil => exact absurd hr (pieces_ne_nil sep r)
      | cons p ps => rfl

theorem pieces_join {sep : Char} {ps : List (List Char)} (hne : ps ≠ []) (h : ∀ p ∈ ps, sep ∉ p) :
    pieces sep (join sep ps) = ps := by
  induction ps with
  | nil => exact absurd rfl hne
  | cons p ps ih =>
    have hp := h p List.mem_cons_self
    cases ps with
    | nil => exact pieces_of_not_mem hp
    | cons q qs =>
      have hqs := ih (by simp) fun x hx => h x (List.mem_cons_of_mem p hx)
      rw [join_cons_of_ne_nil sep p (by simp), pieces_append_sep, pieces_of_not_mem hp, hqs]
      rfl

end Credentials.Text
