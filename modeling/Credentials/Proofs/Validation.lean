import Credentials.Proofs.Schema

/-!
# Backends and outcomes of a validation

A backend is populated when one of its credentials is set and complete when all of them are. A check
that passes has seen at most one populated backend, so in a bundle that passed its check the
resolved backend is simply the complete one.

* `Bundle.resolved_eq_some_iff_complete` — which backend is resolved after a check that passed
* `validate_result` — the outcome of a validation, by the issues of the check
-/

namespace Credentials

namespace Bundle

variable {b : Bundle} {x : Backend}

/-- All credentials of a backend are set. -/
def Complete (b : Bundle) (x : Backend) : Prop :=
  ∀ f : Field, f.backend? = some x → b.isSet f = true

theorem presentOf_ne_nil_iff :
    b.presentOf x ≠ [] ↔ ∃ f : Field, f.backend? = some x ∧ b.isSet f = true := by
  constructor
  · intro h
    obtain ⟨f, hf⟩ := List.exists_mem_of_ne_nil _ h
    obtain ⟨hx, hs⟩ := List.mem_filter.mp hf
    exact ⟨f, Field.mem_ofBackend.mp hx, hs⟩
  · rintro ⟨f, hx, hs⟩
    exact List.ne_nil_of_mem (List.mem_filter.mpr ⟨Field.mem_ofBackend.mpr hx, hs⟩)

theorem mem_populated : x ∈ b.populated ↔ ∃ f : Field, f.backend? = some x ∧ b.isSet f = true := by
  rw [populated, List.mem_filter, Bool.not_eq_true', List.isEmpty_eq_false_iff,
    presentOf_ne_nil_iff]
  exact and_iff_right (Backend.mem_all x)

theorem missingOf_eq_nil_iff : b.missingOf x = [] ↔ b.Complete x := by
  rw [missingOf, List.filter_eq_nil_iff]
  constructor
  · intro h f hf
    simpa using h f (Field.mem_ofBackend.mpr hf)
  · intro h f hf
    simpa using h f (Field.mem_ofBackend.mp hf)

/-- A complete backend was begun: no backend is without credentials. -/
theorem Complete.mem_populated (h : b.Complete x) : x ∈ b.populated := by
  have hx : ∃ f : Field, f.backend? = some x := by
    cases x with
    | avail => exact ⟨.availSeedPhrase, rfl⟩
    | celestia => exact ⟨.celestiaPrivateKey, rfl⟩
    | eigen => exact ⟨.eigenPrivateKey, rfl⟩
  obtain ⟨f, hf⟩ := hx
  exact Bundle.mem_populated.mpr ⟨f, hf, h f hf⟩

theorem resolved_eq_some_iff : b.resolved = some x ↔ b.populated = [x] ∧ b.Complete x := by
  unfold resolved
  rw [← missingOf_eq_nil_iff]
  split
  · next y hp =>
    rw [hp, List.cons.injEq, and_iff_left rfl]
    by_cases hm : b.missingOf y = []
    · rw [if_pos (List.isEmpty_iff.mpr hm), Option.some.injEq]
      exact ⟨fun h => ⟨h, h ▸ hm⟩, fun h => h.1⟩
    · rw [if_neg fun h => hm (List.isEmpty_iff.mp h)]
      constructor
      · intro h
        cases h
      · rintro ⟨rfl, h⟩
        exact absurd h hm
  · next hne =>
    constructor
    · intro h
      cases h
    · rintro ⟨h, -⟩
      exact absurd h (hne x)

/-! ## What decides about the backends -/

section Congruence

variable {a : Bundle} (h : ∀ f : Field, f.group = .dataAvailability → a.isSet f = b.isSet f)
include h

theorem presentOf_congr (x : Backend) : a.presentOf x = b.presentOf x :=
  List.filter_congr fun f hf => h f (Field.exists_backend?_iff.mp ⟨x, Field.mem_ofBackend.mp hf⟩)

theorem missingOf_congr (x : Backend) : a.missingOf x = b.missingOf x :=
  List.filter_congr fun f hf => by
    rw [h f (Field.exists_backend?_iff.mp ⟨x, Field.mem_ofBackend.mp hf⟩)]

theorem populated_congr : a.populated = b.populated :=
  List.filter_congr fun x _ => by rw [presentOf_congr h]

/-- Which backend is resolved depends only on which credentials of backends are set. -/
theorem resolved_congr : a.resolved = b.resolved := by
  simp only [resolved, populated_congr h, missingOf_congr h]

theorem backendIssues_congr (r : Role) : a.backendIssues r = b.backendIssues r := by
  simp only [backendIssues, populated_congr h, missingOf_congr h, funext (presentOf_congr h)]

end Congruence

/-! ## One backend at most -/

/-- No two backends have credentials. -/
def OneBackend (b : Bundle) : Prop :=
  ∀ (f g : Field) (x y : Backend), f.backend? = some x → g.backend? = some y →
    b.isSet f = true → b.isSet g = true → x = y

theorem oneBackend_iff : b.OneBackend ↔ b.populated = [] ∨ ∃ y, b.populated = [y] := by
  constructor
  · intro h
    have hall : ∀ x ∈ b.populated, ∀ y ∈ b.populated, x = y := by
      intro x hx y hy
      obtain ⟨f, hfx, hf⟩ := mem_populated.mp hx
      obtain ⟨g, hgy, hg⟩ := mem_populated.mp hy
      exact h f g x y hfx hgy hf hg
    have hnodup : b.populated.Nodup := Backend.nodup_all.filter _
    cases hp : b.populated with
    | nil => exact Or.inl rfl
    | cons y r =>
      rw [hp] at hall hnodup
      cases r with
      | nil => exact Or.inr ⟨y, rfl⟩
      | cons z r =>
        have hyz : y = z :=
          hall y List.mem_cons_self z (List.mem_cons_of_mem y List.mem_cons_self)
        exact absurd (hyz ▸ List.mem_cons_self) (List.nodup_cons.mp hnodup).1
  · intro h f g x y hfx hgy hf hg
    have hx : x ∈ b.populated := mem_populated.mpr ⟨f, hfx, hf⟩
    have hy : y ∈ b.populated := mem_populated.mpr ⟨g, hgy, hg⟩
    rcases h with hp | ⟨z, hp⟩
    · rw [hp] at hx
      cases hx
    · rw [hp] at hx hy
      rw [List.mem_singleton.mp hx, List.mem_singleton.mp hy]

/-- A check that passes has not seen several backends. -/
theorem oneBackend_of_issues_eq_nil {r : Role} (h : b.issues r = []) : b.OneBackend := by
  have hd : b.backendIssues r = [] := (List.append_eq_nil_iff.mp h).2
  rw [oneBackend_iff]
  unfold backendIssues at hd
  split at hd
  · next hp => exact Or.inl hp
  · next y hp => exact Or.inr ⟨y, hp⟩
  · cases hd

/-- With one backend at most, a backend is resolved if and only if it is complete. -/
theorem OneBackend.resolved_eq_some_iff (h : b.OneBackend) :
    b.resolved = some x ↔ b.Complete x := by
  rw [Bundle.resolved_eq_some_iff]
  refine ⟨fun hx => hx.2, fun hx => ⟨?_, hx⟩⟩
  have hm : x ∈ b.populated := hx.mem_populated
  rcases oneBackend_iff.mp h with hp | ⟨y, hp⟩
  · rw [hp] at hm
    cases hm
  · rw [hp] at hm ⊢
    rw [List.mem_singleton.mp hm]

/-- **In a bundle that passed its check a backend is resolved if and only if it is complete.** -/
theorem resolved_eq_some_iff_complete {r : Role} (h : b.issues r = []) :
    b.resolved = some x ↔ b.Complete x :=
  (oneBackend_of_issues_eq_nil h).resolved_eq_some_iff

end Bundle

/-! ## Outcomes -/

/-- The outcome of a validation, by the issues of the check. -/
theorem validate_result (b : Bundle) (r : Role) :
    (validate b r).result
      = if (b.check r).issues = [] then .ok (View.of b r) else .error (.invalid (b.check r)) := by
  simp only [validate, Report.ok, List.isEmpty_iff]
  split <;> rfl

theorem validate_eq_error_iff {b : Bundle} {r : Role} {e : Error} :
    (validate b r).result = .error e ↔ (b.check r).issues ≠ [] ∧ e = .invalid (b.check r) := by
  rw [validate_result]
  constructor
  · intro h
    split at h
    · cases h
    · next hi => exact ⟨hi, (Except.error.inj h).symm⟩
  · rintro ⟨hi, rfl⟩
    exact if_neg hi

/-- A view that comes out of a validation is the role's view of a bundle without issues. -/
theorem validate_eq_ok_iff {b : Bundle} {r : Role} {v : View} :
    (validate b r).result = .ok v ↔ b.issues r = [] ∧ v = View.of b r := by
  rw [validate_result]
  constructor
  · intro h
    split at h
    · next hi => exact ⟨hi, (Except.ok.inj h).symm⟩
    · cases h
  · rintro ⟨hi, rfl⟩
    exact if_pos hi

end Credentials
