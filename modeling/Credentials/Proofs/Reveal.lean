import Credentials.Proofs.Reachable
import Credentials.Proofs.Validation

/-!
# What a view reveals

A view is asked by path. Whether it answers is decided by three questions in turn: is the path a
credential's, does the role expose its group, and does the view hold it. The first two are read off
the view; the third is brought back to the bundle here: a view holds what the bundle holds, except
for the credentials of a backend that is not complete.

Main statement: `reveal_exact`.
-/

namespace Credentials

namespace View

variable {b : Bundle} {r : Role} {f : Field}

/-! ## What a view holds, in terms of its bundle -/

/-- What stays in a view belongs to a group that the role exposes and, if to a backend, to the
view's. -/
theorem visible_iff {x? : Option Backend} :
    visible r x? f = true
      ↔ r.exposes f.group = true ∧ ∀ x, f.backend? = some x → x? = some x := by
  unfold visible
  rw [Bool.and_eq_true]
  refine and_congr_right fun _ => ?_
  cases f.backend? with
  | none => exact ⟨fun _ x hx => absurd hx (by simp), fun _ => rfl⟩
  | some y =>
    rw [beq_iff_eq]
    exact ⟨fun h x hx => Option.some.inj hx ▸ h, fun h => h y rfl⟩

/-- What belongs to no backend stays in the view of a role that exposes its group. -/
theorem visible_of_no_backend (x? : Option Backend) (he : r.exposes f.group = true)
    (hn : f.backend? = none) : visible r x? f = true := by
  refine visible_iff.mpr ⟨he, fun x hx => ?_⟩
  rw [hn] at hx
  cases hx

/-- What belongs to the view's backend stays in the view of a role that exposes backends. -/
theorem visible_of_backend {x? : Option Backend} {x : Backend} (hx? : x? = some x)
    (he : r.exposes .dataAvailability = true) (hx : f.backend? = some x) :
    visible r x? f = true := by
  have hg : f.group = .dataAvailability := Field.exists_backend?_iff.mp ⟨x, hx⟩
  refine visible_iff.mpr ⟨hg ▸ he, fun y hy => ?_⟩
  rw [hx?, ← hx, hy]

theorem store_get_of_visible (h : visible r (View.of b r).backend f = true) :
    (View.of b r).store.get f = b.get f := if_pos h

/-- The view of a role has a backend if the role exposes backends and one is resolved. -/
theorem backend_of (he : r.exposes .dataAvailability = true) :
    (View.of b r).backend = b.resolved := if_pos he

/-- A credential that belongs to no backend, or to a complete one, is held as in the bundle. -/
theorem store_get_eq_get (h : b.issues r = []) (he : r.exposes f.group = true)
    (hc : ∀ x, f.backend? = some x → b.Complete x) : (View.of b r).store.get f = b.get f := by
  refine store_get_of_visible (visible_iff.mpr ⟨he, fun x hx => ?_⟩)
  have hg : f.group = .dataAvailability := Field.exists_backend?_iff.mp ⟨x, hx⟩
  rw [hg] at he
  rw [backend_of he, (Bundle.resolved_eq_some_iff_complete h).mpr (hc x hx)]

/-- A credential of a backend that is not complete is not held. -/
theorem store_get_eq_none {x : Backend} (hx : f.backend? = some x) (hc : ¬ b.Complete x) :
    (View.of b r).store.get f = none := by
  refine if_neg fun hv => ?_
  obtain ⟨he, hb⟩ := visible_iff.mp hv
  have hg : f.group = .dataAvailability := Field.exists_backend?_iff.mp ⟨x, hx⟩
  rw [hg] at he
  have hb' : (View.of b r).backend = some x := hb x hx
  rw [backend_of he] at hb'
  exact hc (Bundle.resolved_eq_some_iff.mp hb').2

/-! ## Asking a view -/

theorem reveal_of_unknown {v : View} {p : String} (h : Field.ofPath? p = none) :
    v.reveal p = .error (.unknownPath p none) := by
  simp only [reveal, lookup, h]

theorem reveal_of_hidden {v : View} (h : v.role.exposes f.group = false) :
    v.reveal f.path = .error (.notExposed f.path v.role.name) := by
  simp only [reveal, lookup, Field.ofPath?_path, h, Bool.false_eq_true, if_false]

/-- Inside the groups of the role, the store answers. -/
theorem reveal_of_exposed {v : View} (h : v.role.exposes f.group = true) :
    v.reveal f.path = match v.store.get f with
      | some l => .ok l.value
      | none => .error (.absent f.path) := by
  simp only [reveal, lookup_eq_get v f h]
  cases v.store.get f <;> rfl

theorem reveal_of_held {v : View} {l : Leaf} (h : v.role.exposes f.group = true)
    (hl : v.store.get f = some l) : v.reveal f.path = .ok l.value := by
  rw [reveal_of_exposed h, hl]

theorem reveal_of_absent {v : View} (h : v.role.exposes f.group = true)
    (hl : v.store.get f = none) : v.reveal f.path = .error (.absent f.path) := by
  rw [reveal_of_exposed h, hl]

/-- A path that is no credential's is refused, and no other is refused as such. -/
theorem reveal_eq_unknown_iff {v : View} {p : String} :
    v.reveal p = .error (.unknownPath p none) ↔ ∀ f : Field, f.path ≠ p := by
  rw [← Field.ofPath?_eq_none_iff]
  refine ⟨fun h => ?_, reveal_of_unknown⟩
  cases hp : Field.ofPath? p with
  | none => rfl
  | some f =>
    exfalso
    rw [← Field.path_of_ofPath? hp] at h
    cases he : v.role.exposes f.group with
    | false =>
      rw [reveal_of_hidden he] at h
      cases h
    | true =>
      rw [reveal_of_exposed he] at h
      split at h <;> cases h

/-- A credential is refused for the role exactly if the role does not expose its group. -/
theorem reveal_eq_notExposed_iff {v : View} :
    v.reveal f.path = .error (.notExposed f.path v.role.name) ↔ v.role.exposes f.group = false := by
  refine ⟨fun h => ?_, reveal_of_hidden⟩
  cases he : v.role.exposes f.group with
  | false => rfl
  | true =>
    rw [reveal_of_exposed he] at h
    split at h <;> cases h

/-- A value comes out exactly of what is exposed and held. -/
theorem isOk_reveal (v : View) (f : Field) :
    (v.reveal f.path).isOk = (v.role.exposes f.group && v.store.isSet f) := by
  cases he : v.role.exposes f.group with
  | false =>
    rw [reveal_of_hidden he]
    rfl
  | true =>
    rw [reveal_of_exposed he, Bundle.isSet]
    cases v.store.get f <;> rfl

/-- **The present paths of a view are, in the order of the schema, those that it reveals.** -/
theorem presentPaths_eq_filter (v : View) :
    v.presentPaths = (Field.all.map Field.path).filter fun p => (v.reveal p).isOk := by
  rw [List.filter_map, presentPaths, present, Role.exposedFields, List.filter_filter]
  congr 1
  refine List.filter_congr fun f _ => ?_
  show _ = (v.reveal f.path).isOk
  rw [isOk_reveal, Bool.and_comm]

theorem mem_presentPaths_iff {v : View} {p : String} :
    p ∈ v.presentPaths ↔ ∃ x, v.reveal p = .ok x := by
  rw [presentPaths_eq_filter, List.mem_filter, List.mem_map]
  constructor
  · rintro ⟨-, h⟩
    cases hp : v.reveal p with
    | ok x => exact ⟨x, rfl⟩
    | error e =>
      rw [hp] at h
      cases h
  · rintro ⟨x, hx⟩
    refine ⟨?_, by rw [hx]; rfl⟩
    cases hp : Field.ofPath? p with
    | none =>
      rw [reveal_of_unknown hp] at hx
      cases hx
    | some f => exact ⟨f, Field.mem_all f, Field.path_of_ofPath? hp⟩

end View

/-! ## Revealing from a validated bundle -/

/-- **The exact outcome of a reveal.**

A path that is no credential's is unknown; a credential whose group the role does not expose is
refused; one outside the backends is revealed if the bundle holds it and absent otherwise; one of a
backend is revealed if all credentials of that backend are set and absent otherwise. What is
revealed is a text, and the view's present paths are those it reveals. -/
theorem reveal_exact {b : Bundle} (hb : Reachable b) {r : Role} {v : View}
    (hv : (validate b r).result = .ok v) :
    (∀ p, v.reveal p = .error (.unknownPath p none) ↔ ∀ f : Field, f.path ≠ p)
      ∧ (∀ f : Field, v.reveal f.path = .error (.notExposed f.path r.name)
          ↔ r.exposes f.group = false)
      ∧ (∀ f : Field, r.exposes f.group = true → f.group ≠ .dataAvailability →
          (v.reveal f.path = .error (.absent f.path) ↔ b.get f = none)
            ∧ ∀ l, b.get f = some l → v.reveal f.path = .ok l.value)
      ∧ (∀ (f : Field) (x : Backend), r.exposes f.group = true → f.backend? = some x →
          ((∀ g : Field, g.backend? = some x → b.isSet g = true) →
              ∃ l, b.get f = some l ∧ v.reveal f.path = .ok l.value)
            ∧ ((∃ g : Field, g.backend? = some x ∧ b.isSet g = false) →
              v.reveal f.path = .error (.absent f.path)))
      ∧ (∀ f l, b.get f = some l → ∃ s, l.value.asText? = some s)
      ∧ v.presentPaths = (Field.all.map Field.path).filter (fun p => (v.reveal p).isOk)
      ∧ ∀ p, p ∈ v.presentPaths ↔ ∃ x, v.reveal p = .ok x := by
  obtain ⟨hi, rfl⟩ := validate_eq_ok_iff.mp hv
  refine ⟨fun p => View.reveal_eq_unknown_iff, fun f => View.reveal_eq_notExposed_iff, ?_, ?_, ?_,
    View.presentPaths_eq_filter _, fun p => View.mem_presentPaths_iff⟩
  · intro f he hda
    have hs : (View.of b r).store.get f = b.get f := by
      refine View.store_get_eq_get hi he fun x hx => ?_
      rw [Field.backend?_eq_none_of_group_ne hda] at hx
      cases hx
    refine ⟨⟨fun h => ?_, fun h => View.reveal_of_absent he (hs.trans h)⟩,
      fun l hl => View.reveal_of_held he (hs.trans hl)⟩
    cases hg : b.get f with
    | none => rfl
    | some l =>
      rw [View.reveal_of_held he (hs.trans hg)] at h
      cases h
  · intro f x he hx
    constructor
    · intro hc
      have hs : (View.of b r).store.get f = b.get f := by
        refine View.store_get_eq_get hi he fun y hy => ?_
        obtain rfl : x = y := Option.some.inj (hx.symm.trans hy)
        exact hc
      obtain ⟨l, hl⟩ := Option.isSome_iff_exists.mp (hc f hx)
      exact ⟨l, hl, View.reveal_of_held he (hs.trans hl)⟩
    · rintro ⟨g, hg, hn⟩
      refine View.reveal_of_absent he (View.store_get_eq_none hx fun hc => ?_)
      rw [hc g hg] at hn
      cases hn
  · intro f l hl
    obtain ⟨-, s, hs, -⟩ := hb.sound.proper f l hl
    exact ⟨s, hs⟩

/-- A backend that was begun and given up for another one. -/
def celestiaAfterAvail : Bundle :=
  Bundle.empty.write .l1RpcUrl (.text "http://l1")
    |>.write .availSeedPhrase (.text "words")
    |>.write .availSeedPhrase .null
    |>.write .celestiaPrivateKey (.secret .plain (.text "0xabc"))

theorem reveal_exact_celestiaAfterAvail :
    ∃ v, Reachable celestiaAfterAvail
      ∧ (validate celestiaAfterAvail .dataAvailabilityClient).result = .ok v
      ∧ v.reveal Field.celestiaPrivateKey.path = .ok (.text "0xabc")
      ∧ v.reveal Field.availSeedPhrase.path = .error (.absent Field.availSeedPhrase.path)
      ∧ v.reveal Field.serverUrl.path
          = .error (.notExposed Field.serverUrl.path Role.dataAvailabilityClient.name)
      ∧ v.reveal "da" = .error (.unknownPath "da" none) := by
  have hb : Reachable celestiaAfterAvail :=
    (((Reachable.empty.write .l1RpcUrl (Or.inr ⟨"http://l1", rfl⟩)).write .availSeedPhrase
      (Or.inr ⟨"words", rfl⟩)).write .availSeedPhrase (Or.inl rfl)).write .celestiaPrivateKey
      (Or.inr ⟨"0xabc", rfl⟩)
  have hi : celestiaAfterAvail.issues .dataAvailabilityClient = [] := by decide +kernel
  have hv := validate_eq_ok_iff.mpr ⟨hi, rfl⟩
  obtain ⟨hunknown, hhidden, -, hbackend, -⟩ := reveal_exact hb hv
  refine ⟨_, hb, hv, ?_, ?_, ?_, ?_⟩
  · obtain ⟨l, hl, hr⟩ := (hbackend .celestiaPrivateKey .celestia rfl rfl).1 fun g hg => by
      cases g <;> first | rfl | cases hg
    obtain rfl := Option.some.inj hl
    exact hr
  · exact (hbackend .availSeedPhrase .avail rfl rfl).2 ⟨.availSeedPhrase, rfl, rfl⟩
  · exact (hhidden .serverUrl).mpr rfl
  · exact (hunknown "da").mpr fun f => f.path_ne_groupName .dataAvailability

end Credentials
