import Credentials.Proofs.LastWrite

/-!
# Bundles that loads and writes can make

A bundle is reachable if it was loaded from sources or is the empty one, and was written to since
then with nothing but texts, wrapped texts and clearing values. Bundles built directly are left out:
they may have groups without content and wrappers around anything.

* `Reachable.of_writes` — loads are sequences of writes too, so one step decides
* `Reachable.sound` — no group without content, and every wrapper is the declared one around a text
  that is not empty
-/

namespace Credentials

open Text

/-- A bundle that loads and writes can make. -/
inductive Reachable : Bundle → Prop
  | empty : Reachable .empty
  | load {sources : List Source} {b : Bundle} (h : (load sources).result = .ok b) : Reachable b
  | write {b : Bundle} (f : Field) {v : Raw} (hb : Reachable b) (hv : v.Writable) :
      Reachable (b.write f v)

/-! ## One step decides -/

theorem writable_writtenRaw : ∀ u : Option String, (writtenRaw u).Writable
  | none => Or.inl rfl
  | some s => Or.inr ⟨s, rfl⟩

/-- What writes keep, a list of writes keeps. -/
theorem foldl_write_induction {P : Bundle → Prop}
    (step : ∀ b f v, v.Writable → P b → P (b.write f v)) :
    ∀ (w : Writes) {b : Bundle}, P b →
      P (w.foldl (fun b p => b.write p.1 (writtenRaw p.2)) b)
  | [], _, hb => hb
  | (f, u) :: r, b, hb => by
    rw [List.foldl_cons]
    exact foldl_write_induction step r (step b f _ (writable_writtenRaw u) hb)

/-- **What holds of the empty bundle and is kept by writes holds of every reachable bundle.** -/
theorem Reachable.of_writes {P : Bundle → Prop} (empty : P .empty)
    (step : ∀ b f v, v.Writable → P b → P (b.write f v)) {b : Bundle} (h : Reachable b) : P b := by
  induction h with
  | empty => exact empty
  | load h =>
    obtain ⟨w, -, rfl, -⟩ := merge_of_load h
    exact foldl_write_induction step w empty
  | write f _ hv ih => exact step _ f _ hv ih

/-! ## The invariant -/

/-- A wrapper that a write of a text leaves: the declared one, around a text that is not empty. -/
def Leaf.Proper (l : Leaf) (f : Field) : Prop :=
  l.kind = f.kind ∧ ∃ s, l.value.asText? = some s ∧ s.isEmpty = false

/-- No group is there without content, and every wrapper is proper. -/
structure Bundle.Sound (b : Bundle) : Prop where
  canonical : b.Canonical
  proper : ∀ f l, b.get f = some l → l.Proper f

/-- A sound bundle holds texts. -/
theorem Bundle.Sound.asText? {b : Bundle} (h : b.Sound) {f : Field} {l : Leaf}
    (hl : b.get f = some l) : ∃ s, l.value.asText? = some s := by
  obtain ⟨-, s, hs, -⟩ := h.proper f l hl
  exact ⟨s, hs⟩

theorem Bundle.sound_empty : Bundle.empty.Sound where
  canonical := Bundle.canonical_empty
  proper f l h := by
    rw [Bundle.get_empty] at h
    cases h

/-- A text that counts as something is not empty; nor is the name of a role. -/
theorem isEmpty_eq_false_of_truthy {v : Raw} {s : String} (ht : v.truthy = true)
    (hs : v.asText? = some s) : s.isEmpty = false := by
  cases v with
  | text t =>
    obtain rfl := Option.some.inj hs
    rw [Raw.truthy_text, Bool.not_eq_true'] at ht
    exact ht
  | role r =>
    obtain rfl := Option.some.inj hs
    cases r <;> decide +kernel
  | _ => cases hs

/-- What a write leaves for its own credential. -/
theorem proper_leafFor {f : Field} {v : Raw} {l : Leaf} (hv : v.Writable)
    (h : Bundle.leafFor f v = some l) : l.Proper f := by
  unfold Bundle.leafFor at h
  split at h
  · next ht =>
    obtain rfl := Option.some.inj h
    rcases hv with rfl | ⟨s, hs⟩
    · cases ht
    · exact ⟨rfl, s, hs, isEmpty_eq_false_of_truthy ht hs⟩
  · cases h

theorem Bundle.Sound.write {b : Bundle} (hb : b.Sound) (f : Field) {v : Raw} (hv : v.Writable) :
    (b.write f v).Sound where
  canonical := hb.canonical.set f _
  proper g l h := by
    by_cases hg : g = f
    · subst hg
      exact proper_leafFor hv ((Bundle.get_set_self b g _).symm.trans h)
    · exact hb.proper g l ((Bundle.get_set_of_ne b _ hg).symm.trans h)

/-- **Every reachable bundle is sound.** -/
theorem Reachable.sound {b : Bundle} (h : Reachable b) : b.Sound :=
  h.of_writes Bundle.sound_empty fun _ f _ hv hb => hb.write f hv

end Credentials
