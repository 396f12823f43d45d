import Credentials.Proofs.Findings

/-!
# When a check passes

A check passes if and only if three things hold: every credential that the role requires by itself
is set, no two backends have credentials, and where the role requires a backend one is resolved.

Main statement: `Bundle.issues_eq_nil_iff`.
-/

namespace Credentials.Bundle

variable {b : Bundle} {r : Role}

theorem l1Issues_eq_nil_iff :
    b.l1Issues r = [] ↔ (r.needsL1Rpc = true → b.isSet .l1RpcUrl = true) := by
  rw [List.eq_nil_iff_forall_not_mem]
  constructor
  · intro h hn
    rw [← Bool.not_eq_false]
    exact fun hs => h .noL1Rpc (mem_l1Issues.mpr ⟨hn, hs, rfl⟩)
  · intro h i hi
    obtain ⟨hn, hs, -⟩ := mem_l1Issues.mp hi
    rw [h hn] at hs
    cases hs

theorem consensusIssues_eq_nil_iff :
    b.consensusIssues r = [] ↔ ∀ f ∈ r.consensusKeys, b.isSet f = true := by
  rw [List.eq_nil_iff_forall_not_mem]
  constructor
  · intro h f hf
    rw [← Bool.not_eq_false]
    exact fun hs => h (.noConsensusKey f) (mem_consensusIssues.mpr ⟨f, hf, hs, rfl⟩)
  · intro h i hi
    obtain ⟨f, hf, hs, -⟩ := mem_consensusIssues.mp hi
    rw [h f hf] at hs
    cases hs

/-- The rule of the backend's choice finds nothing if there is nothing to choose, and the choice is
resolved where the role needs one. -/
theorem backendIssues_eq_nil_iff :
    b.backendIssues r = [] ↔ b.OneBackend ∧ (r.needsBackend = true → ∃ x, b.resolved = some x) := by
  rw [oneBackend_iff]
  unfold backendIssues resolved
  cases hp : b.populated with
  | nil => simp
  | cons x xs =>
    cases xs with
    | nil => simp
    | cons y ys => simp

/-- The rules of single credentials find nothing if all that are required are set. -/
theorem required_issues_eq_nil_iff :
    b.l1Issues r = [] ∧ b.consensusIssues r = [] ↔ ∀ f ∈ r.required, b.isSet f = true := by
  rw [l1Issues_eq_nil_iff, consensusIssues_eq_nil_iff]
  constructor
  · rintro ⟨hl, hk⟩ f hf
    rcases Role.mem_required.mp hf with ⟨hn, rfl⟩ | hm
    · exact hl hn
    · exact hk f hm
  · intro h
    exact ⟨fun hn => h _ (Role.mem_required.mpr (Or.inl ⟨hn, rfl⟩)),
      fun f hm => h f (Role.mem_required.mpr (Or.inr hm))⟩

/-- **A check passes if and only if every required credential is set, no two backends have
credentials, and a backend is resolved where the role needs one.** -/
theorem issues_eq_nil_iff :
    b.issues r = [] ↔ (∀ f ∈ r.required, b.isSet f = true) ∧ b.OneBackend
      ∧ (r.needsBackend = true → ∃ x, b.resolved = some x) := by
  rw [issues, List.append_eq_nil_iff, List.append_eq_nil_iff, required_issues_eq_nil_iff,
    backendIssues_eq_nil_iff]

end Credentials.Bundle
