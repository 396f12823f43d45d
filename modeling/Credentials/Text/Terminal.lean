/-!
# Texts for a terminal

What a command line writes is free of control sequences, with which a text could move the cursor or
change colours: a sequence starts with the escape character and an opening bracket, goes on with
parameters and intermediate characters, and ends with a final character (`dropSequences`). What only
starts like a sequence is kept. In all that is written a carriage return before a line feed is
dropped (`unifyReturns`).

Main statements: `dropSequences_of_not_mem` and `unifyReturns_of_not_mem`, a text without the
characters in question is written as it stands.
-/

namespace Credentials.Text

/-- The character that starts a control sequence. -/
def escapeMark : Char := Char.ofNat 0x1B

/-- A parameter of a control sequence. -/
def isParameter (c : Char) : Bool := 0x30 ≤ c.toNat && c.toNat ≤ 0x3F

/-- A character between the parameters and the end of a control sequence. -/
def isIntermediate (c : Char) : Bool := 0x20 ≤ c.toNat && c.toNat ≤ 0x2F

/-- The last character of a control sequence. -/
def isFinal (c : Char) : Bool := 0x40 ≤ c.toNat && c.toNat ≤ 0x7E

/-- How many characters a control sequence takes behind its opening bracket, if it is one. -/
def sequenceLength? (cs : List Char) : Option Nat :=
  let parameters := cs.takeWhile isParameter
  let behind := cs.dropWhile isParameter
  let intermediates := behind.takeWhile isIntermediate
  if (behind.dropWhile isIntermediate).head?.any isFinal then
    some (parameters.length + intermediates.length + 1)
  else none

/-- How many characters the control sequence takes that starts with a character, if one does. -/
def sequenceFrom? (c : Char) (r : List Char) : Option Nat :=
  if c = escapeMark ∧ r.head? = some '[' then (sequenceLength? (r.drop 1)).map (· + 1) else none

/-- The characters without control sequences. -/
def dropSequences : List Char → List Char
  | [] => []
  | c :: r =>
    match sequenceFrom? c r with
    | some n => dropSequences (r.drop n)
    | none => c :: dropSequences r
termination_by cs => cs.length
decreasing_by
  · simp only [List.length_cons, List.length_drop]
    omega
  · simp

theorem dropSequences_of_not_mem {cs : List Char} (h : escapeMark ∉ cs) :
    dropSequences cs = cs := by
  induction cs with
  | nil => simp [dropSequences]
  | cons c r ih =>
    obtain ⟨hc, hr⟩ : ¬escapeMark = c ∧ escapeMark ∉ r := by simpa using h
    have hne : c ≠ escapeMark := fun e => hc e.symm
    rw [dropSequences]
    simp [sequenceFrom?, hne, ih hr]

/-- The text without control sequences. -/
def withoutSequences (s : String) : String := String.ofList (dropSequences s.toList)

/-- The characters without the carriage returns before line feeds. -/
def unifyReturns : List Char → List Char
  | [] => []
  | '\r' :: '\n' :: r => '\n' :: unifyReturns r
  | c :: r => c :: unifyReturns r

theorem unifyReturns_of_not_mem {cs : List Char} (h : '\r' ∉ cs) : unifyReturns cs = cs := by
  induction cs with
  | nil => rfl
  | cons c r ih =>
    obtain ⟨hc, hr⟩ : ¬ '\r' = c ∧ '\r' ∉ r := by simpa using h
    rw [unifyReturns, ih hr]
    intro s e
    exact absurd e.symm hc

/-- The text without the carriage returns before line feeds. -/
def withoutReturns (s : String) : String := String.ofList (unifyReturns s.toList)

end Credentials.Text
