import Credentials.Text.Case

/-!
# Letter case inside and outside ASCII

Both tables of letter case begin with the ASCII letters, and all their other runs lie above ASCII.
So for an ASCII character the two mappings are those of ASCII. Nothing above ASCII comes down into
it in lower case, except the Kelvin sign, which becomes a `k`.

* `upperChar_of_ascii`, `lowerChar_of_ascii` — inside ASCII
* `lowerChar_of_not_ascii` — outside ASCII
-/

namespace Credentials.Text

/-- A character of ASCII. -/
def IsAscii (c : Char) : Prop := c.toNat < 128

instance (c : Char) : Decidable (IsAscii c) := inferInstanceAs (Decidable (c.toNat < 128))

/-! ## Inside ASCII -/

/-- Of a table whose other runs lie above ASCII, only the first run counts for ASCII. -/
theorem shiftBy_of_ascii {run : CaseRun} {runs : List CaseRun} (h : ∀ r ∈ runs, 128 ≤ r.first)
    {c : Char} (hc : IsAscii c) :
    shiftBy (run :: runs) c
      = if run.covers c.toNat then Char.ofNat (Int.toNat (c.toNat + run.shift)) else c := by
  have hrest : runs.find? (·.covers c.toNat) = none := by
    refine List.find?_eq_none.mpr fun r hr hcovers => ?_
    simp only [CaseRun.covers, Bool.and_eq_true, decide_eq_true_eq] at hcovers
    exact absurd (Nat.le_trans (h r hr) hcovers.1.1) (Nat.not_le.mpr hc)
  rw [shiftBy, List.find?_cons]
  cases run.covers c.toNat with
  | true => rfl
  | false => simp [hrest]

/-- What holds of the first 128 characters holds of ASCII. -/
theorem forall_isAscii {P : Char → Prop} (h : ∀ n < 128, P (Char.ofNat n)) :
    ∀ c, IsAscii c → P c := by
  intro c hc
  have := h c.toNat hc
  rwa [Char.ofNat_toNat] at this

/-- **The upper case of an ASCII character is that of ASCII.** -/
theorem upperChar_of_ascii {c : Char} (hc : IsAscii c) : upperChar c = [c.toUpper] := by
  have hspecial : upperSpecial.lookup c.toNat = none := by
    have habove : ∀ p ∈ upperSpecial, 128 ≤ p.1 := by decide
    refine List.lookup_eq_none_iff.mpr fun p hp => bne_iff_ne.mpr fun he => ?_
    exact absurd (he ▸ habove p hp) (Nat.not_le.mpr hc)
  have habove : ∀ r ∈ upperRuns.tail, 128 ≤ r.first := by decide +kernel
  have hletters : ∀ d, IsAscii d →
      (if CaseRun.covers ⟨0x61, 0x7A, 1, -32⟩ d.toNat
        then Char.ofNat (Int.toNat (d.toNat + -32)) else d) = d.toUpper :=
    forall_isAscii (by decide +kernel)
  rw [upperChar, hspecial]
  exact congrArg ([·]) ((shiftBy_of_ascii habove hc).trans (hletters c hc))

/-- **The lower case of an ASCII character is that of ASCII.** -/
theorem lowerChar_of_ascii {c : Char} (hc : IsAscii c) : lowerChar c = [c.toLower] := by
  have hdotted : c.toNat ≠ 0x130 := fun he => by
    rw [IsAscii, he] at hc
    exact absurd hc (by decide)
  have habove : ∀ r ∈ lowerRuns.tail, 128 ≤ r.first := by decide +kernel
  have hletters : ∀ d, IsAscii d →
      (if CaseRun.covers ⟨0x41, 0x5A, 1, 32⟩ d.toNat
        then Char.ofNat (Int.toNat (d.toNat + 32)) else d) = d.toLower :=
    forall_isAscii (by decide +kernel)
  rw [lowerChar, if_neg hdotted]
  exact congrArg ([·]) ((shiftBy_of_ascii habove hc).trans (hletters c hc))

theorem isAscii_toUpper : ∀ c, IsAscii c → IsAscii c.toUpper := forall_isAscii (by decide +kernel)

/-- The upper case of a text of ASCII. -/
theorem upper_of_ascii {cs : List Char} (h : ∀ c ∈ cs, IsAscii c) :
    upper (String.ofList cs) = String.ofList (cs.map Char.toUpper) := by
  rw [upper, String.toList_ofList, List.map_eq_flatMap, List.flatMap_def, List.flatMap_def,
    List.map_congr_left fun c hc => upperChar_of_ascii (h c hc)]

/-! ## Outside ASCII -/

theorem not_isAscii_ofNat {n : Nat} (h : 128 ≤ n) (hn : n.isValidChar) :
    ¬ IsAscii (Char.ofNat n) := by
  rw [Char.ofNat, dif_pos hn]
  exact Nat.not_lt.mpr h

/-- **What is not ASCII has a lower case that is not, or else it is the Kelvin sign.** -/
theorem lowerChar_of_not_ascii {c : Char} (hc : ¬ IsAscii c) :
    ∃ d ∈ lowerChar c, ¬ IsAscii d ∨ d = 'k' := by
  unfold lowerChar
  split
  · exact ⟨Char.ofNat 0x307, by simp, .inl (by decide)⟩
  · refine ⟨_, List.mem_singleton.mpr rfl, ?_⟩
    unfold shiftBy
    split
    · next r hr =>
      have hcovers := List.find?_some hr
      simp only [CaseRun.covers, Bool.and_eq_true, decide_eq_true_eq] at hcovers
      -- where a run goes: it starts in ASCII, it ends above ASCII, or it is the Kelvin sign
      have hrun : ∀ r ∈ lowerRuns, r.last < 128
          ∨ 128 ≤ r.first + r.shift
            ∧ (r.last + r.shift < 0xD800 ∨ 0xDFFF < r.first + r.shift ∧ r.last + r.shift < 0x110000)
          ∨ r.first = 0x212A ∧ r.last = 0x212A ∧ r.shift = -8383 := by decide +kernel
      rcases hrun r (List.mem_of_find?_eq_some hr) with hlow | ⟨habove, hvalid⟩ | ⟨hf, hl, hs⟩
      · exact absurd (Nat.lt_of_le_of_lt hcovers.1.2 hlow) hc
      · have hn : 128 ≤ (c.toNat + r.shift).toNat := by omega
        refine .inl (not_isAscii_ofNat hn ?_)
        unfold Nat.isValidChar
        omega
      · have hn : c.toNat = 0x212A := by omega
        rw [hn, hs]
        exact .inr (by decide)
    · exact .inl hc

end Credentials.Text
