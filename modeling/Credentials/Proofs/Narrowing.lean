import Credentials.Bundle.Open
import Credentials.Proofs.Scoping

/-!
# From a view back to a bundle

A view can be checked again, for its own role or for another one: its values are written to a new
bundle first. That bundle is the view's own store, so nothing is gained and nothing is lost on the
way, and a role that sees no more than the first one gets the view that it would have got from the
bundle itself.

* `View.toBundle_eq_store` — the bundle written anew is the store of the view
* `View.issues_store_eq_nil_iff` — for a narrower role it passes exactly if the bundle does
* `View.of_store` — and it gives that role the same view
* `revalidation_narrows` — the three put together
-/

namespace Credentials

variable {b : Bundle} {r r₁ r₂ : Role}

/-- A role sees no more than another one. -/
def Role.Within (r₂ r₁ : Role) : Prop :=
  ∀ g, r₂.exposes g = true → r₁.exposes g = true

/-! ## Writing secrets again -/

theorem truthy_of_asText? {v : Raw} {s : String} (h : v.asText? = some s)
    (hs : s.isEmpty = false) : v.truthy = true := by
  cases v with
  | text t =>
    obtain rfl := Option.some.inj h
    rw [Raw.truthy_text, hs]
    rfl
  | role r => rfl
  | _ => cases h

/-- A proper wrapper is written as it is. -/
theorem Leaf.Proper.leafFor {f : Field} {l : Leaf} (h : l.Proper f) :
    Bundle.leafFor f l.toRaw = some l := by
  obtain ⟨hk, s, hs, hne⟩ := h
  rw [Bundle.leafFor, Leaf.toRaw, Raw.unwrap_secret, if_pos (truthy_of_asText? hs hne), ← hk]

/-- Writing values of their own to some credentials leaves the others alone. -/
theorem get_foldl_write_each (g : Field → Raw) (fs : List Field) (b : Bundle) (f : Field) :
    (fs.foldl (fun b f => b.write f (g f)) b).get f
      = if f ∈ fs then Bundle.leafFor f (g f) else b.get f := by
  induction fs generalizing b with
  | nil => rfl
  | cons k r ih =>
    rw [List.foldl_cons, ih]
    by_cases hr : f ∈ r
    · rw [if_pos hr, if_pos (List.mem_cons_of_mem k hr)]
    · rw [if_neg hr]
      by_cases hk : f = k
      · subst hk
        rw [if_pos List.mem_cons_self]
        exact Bundle.get_set_self b f _
      · rw [if_neg fun hm => (List.mem_cons.mp hm).elim hk hr]
        exact Bundle.get_set_of_ne b _ hk

/-- New wrappers around the same texts make no other bundle. -/
theorem Bundle.Sound.rewrapped (h : b.Sound) (distance : Nat) : b.rewrapped distance = b := by
  refine eq_of_get_of_holds (fun f => ?_) fun g => rfl
  show (b.get f).map (fun l => { l with value := l.value.rewrapped distance }) = b.get f
  cases hl : b.get f with
  | none => rfl
  | some l =>
    obtain ⟨s, hs⟩ := h.asText? hl
    obtain ⟨k, v⟩ := l
    have hv : v.rewrapped distance = v := by
      cases v <;> first | rfl | cases hs
    rw [Option.map_some, hv]

/-- What a sound bundle holds is the same secret as itself: it is a text. -/
theorem Bundle.Sound.sameSecret_self (h : b.Sound) (f : Field) :
    SameSecret (b.get f) (b.get f) := by
  cases hl : b.get f with
  | none => exact .none
  | some l =>
    obtain ⟨s, hs⟩ := h.asText? hl
    exact .some rfl hs hs

/-! ## The store of a view -/

namespace View

/-- What the store holds, the bundle holds. -/
theorem get_of_store_get {f : Field} {l : Leaf} (h : (View.of b r).store.get f = some l) :
    visible r (View.of b r).backend f = true ∧ b.get f = some l := by
  have hs : (if visible r (View.of b r).backend f then b.get f else none) = some l := h
  split at hs
  · next hv => exact ⟨hv, hs⟩
  · cases hs

theorem isSet_of_store_isSet {f : Field} (h : (View.of b r).store.isSet f = true) :
    visible r (View.of b r).backend f = true ∧ b.isSet f = true := by
  obtain ⟨l, hl⟩ := Option.isSome_iff_exists.mp h
  obtain ⟨hv, hg⟩ := get_of_store_get hl
  exact ⟨hv, Option.isSome_iff_exists.mpr ⟨l, hg⟩⟩

/-- A view has a group exactly if it holds something of it. -/
theorem canonical_store (h : b.Canonical) : (View.of b r).store.Canonical := by
  intro g
  rw [Bool.eq_iff_iff, List.any_eq_true]
  constructor
  · intro hg
    obtain ⟨he, hh⟩ := Bool.and_eq_true_iff.mp hg
    by_cases hda : g = .dataAvailability
    · subst hda
      rw [if_pos rfl, Option.isSome_iff_exists] at hh
      obtain ⟨x, hx⟩ := hh
      -- the view's backend is complete, so it holds all of it
      have hc : b.Complete x := (Bundle.resolved_eq_some_iff.mp ((backend_of he).symm.trans hx)).2
      obtain ⟨f, hfx, hs⟩ := Bundle.mem_populated.mp hc.mem_populated
      have hf : f.group = .dataAvailability := Field.exists_backend?_iff.mp ⟨x, hfx⟩
      refine ⟨f, Field.mem_ofGroup.mpr hf, ?_⟩
      rw [Bundle.isSet, store_get_of_visible (visible_of_backend hx he hfx)]
      exact hs
    · rw [if_neg hda, h g, List.any_eq_true] at hh
      obtain ⟨f, hf, hs⟩ := hh
      obtain rfl := Field.mem_ofGroup.mp hf
      refine ⟨f, hf, ?_⟩
      have hn : f.backend? = none := Field.backend?_eq_none_of_group_ne hda
      rw [Bundle.isSet, store_get_of_visible (visible_of_no_backend _ he hn)]
      exact hs
  · rintro ⟨f, hf, hs⟩
    obtain rfl := Field.mem_ofGroup.mp hf
    exact (View.of b r).store.holds_of_leaf f hs

theorem sound_store (h : b.Sound) : (View.of b r).store.Sound where
  canonical := canonical_store h.canonical
  proper f l hl := h.proper f l (get_of_store_get hl).2

/-- The credentials that a view holds are those that its store holds. -/
theorem present_of : (View.of b r).present = (View.of b r).store.present := by
  rw [present, Bundle.present, Role.exposedFields, List.filter_filter]
  refine List.filter_congr fun f _ => ?_
  cases hs : (View.of b r).store.isSet f with
  | false => rfl
  | true => exact (visible_iff.mp (isSet_of_store_isSet hs).1).1

theorem mem_present {f : Field} :
    f ∈ (View.of b r).present ↔ (View.of b r).store.isSet f = true := by
  rw [present_of, Bundle.present, List.mem_filter, and_iff_right (Field.mem_all f)]

/-- **The bundle written anew from a view is the view's store.** -/
theorem toBundle_eq_store (h : b.Sound) : (View.of b r).toBundle = (View.of b r).store := by
  have hc : (View.of b r).toBundle.Canonical :=
    List.foldlRecOn (motive := Bundle.Canonical) _ _ Bundle.canonical_empty
      fun _ hb f _ => hb.set f _
  refine hc.ext (canonical_store h.canonical) fun f => ?_
  rw [toBundle, get_foldl_write_each]
  cases hl : (View.of b r).store.get f with
  | none =>
    have hm : f ∉ (View.of b r).present := fun hm => by
      rw [mem_present, Bundle.isSet, hl] at hm
      cases hm
    rw [if_neg hm]
    rfl
  | some l =>
    have hm : f ∈ (View.of b r).present := by
      rw [mem_present, Bundle.isSet, hl]
      rfl
    rw [if_pos hm]
    exact ((sound_store h).proper f l hl).leafFor

/-! ## Checking the store for a narrower role -/

/-- The store has no other backend than the bundle. -/
theorem oneBackend_store (h : b.OneBackend) : (View.of b r).store.OneBackend :=
  fun f g x y hx hy hf hg =>
    h f g x y hx hy (isSet_of_store_isSet hf).2 (isSet_of_store_isSet hg).2

/-- For a role that sees backends, the store resolves to the backend of the bundle. -/
theorem resolved_store (h : b.issues r = []) (he : r.exposes .dataAvailability = true) :
    (View.of b r).store.resolved = b.resolved := by
  have hone : b.OneBackend := Bundle.oneBackend_of_issues_eq_nil h
  refine Option.ext fun x => ?_
  rw [(oneBackend_store hone).resolved_eq_some_iff, hone.resolved_eq_some_iff]
  constructor
  · intro hc f hx
    exact (isSet_of_store_isSet (hc f hx)).2
  · intro hc f hx
    have hg : f.group = .dataAvailability := Field.exists_backend?_iff.mp ⟨x, hx⟩
    rw [Bundle.isSet, store_get_eq_get h (hg ▸ he) fun y hy => ?_]
    · exact hc f hx
    · rw [← Option.some.inj (hx.symm.trans hy)]
      exact hc

/-- **For a role that sees no more, the store passes exactly if the bundle does.** -/
theorem issues_store_eq_nil_iff (h : b.issues r₁ = []) (hw : r₂.Within r₁) :
    (View.of b r₁).store.issues r₂ = [] ↔ b.issues r₂ = [] := by
  have hone : b.OneBackend := Bundle.oneBackend_of_issues_eq_nil h
  have hreq : ∀ f ∈ r₂.required, (View.of b r₁).store.isSet f = b.isSet f := by
    intro f hf
    have he : r₁.exposes f.group = true := hw _ (Role.exposes_of_mem_required hf)
    rw [Bundle.isSet,
      store_get_of_visible (visible_of_no_backend _ he (Role.backend?_of_mem_required hf))]
    rfl
  have hres : r₂.needsBackend = true → (View.of b r₁).store.resolved = b.resolved :=
    fun hn => resolved_store h (hw _ (Role.exposes_of_needsBackend hn))
  rw [Bundle.issues_eq_nil_iff, Bundle.issues_eq_nil_iff, iff_true_intro hone,
    iff_true_intro (oneBackend_store hone), true_and, true_and]
  exact and_congr (forall₂_congr fun f hf => by rw [hreq f hf])
    (forall_congr' fun hn => by rw [hres hn])

theorem backend_of_store (h : b.issues r₁ = []) (hw : r₂.Within r₁) :
    (View.of (View.of b r₁).store r₂).backend = (View.of b r₂).backend := by
  by_cases he : r₂.exposes .dataAvailability = true
  · rw [backend_of he, backend_of he, resolved_store h (hw _ he)]
  · exact (if_neg he).trans (if_neg he).symm

/-- Cut down for the wider role first or not, what is left for the narrower one is the same. -/
theorem store_of_store (h : b.issues r₁ = []) (hw : r₂.Within r₁) :
    (View.of (View.of b r₁).store r₂).store = (View.of b r₂).store := by
  show (View.of b r₁).store.restrict r₂ (View.of (View.of b r₁).store r₂).backend
    = b.restrict r₂ (View.of b r₂).backend
  rw [backend_of_store h hw]
  refine Bundle.eq_of_get_of_holds (fun f => ?_) fun g => ?_
  · show (if visible r₂ (View.of b r₂).backend f then (View.of b r₁).store.get f else none)
      = if visible r₂ (View.of b r₂).backend f then b.get f else none
    split
    · next hv =>
      -- what the narrower role sees of a backend, the wider one sees of the same backend
      obtain ⟨he, hx⟩ := visible_iff.mp hv
      refine store_get_of_visible (visible_iff.mpr ⟨hw _ he, fun x hf => ?_⟩)
      have hg : f.group = .dataAvailability := Field.exists_backend?_iff.mp ⟨x, hf⟩
      rw [hg] at he
      rw [backend_of (hw _ he), ← backend_of he]
      exact hx x hf
    · rfl
  · show (r₂.exposes g && if g = .dataAvailability then (View.of b r₂).backend.isSome
        else (r₁.exposes g && if g = .dataAvailability then (View.of b r₁).backend.isSome
          else b.holds g))
      = (r₂.exposes g && if g = .dataAvailability then (View.of b r₂).backend.isSome
        else b.holds g)
    cases he : r₂.exposes g with
    | false => rfl
    | true =>
      by_cases hg : g = .dataAvailability
      · rw [if_pos hg, if_pos hg]
      · rw [if_neg hg, if_neg hg, if_neg hg, hw g he, Bool.true_and]

/-- **And it gives that role the same view.** -/
theorem of_store (h : b.issues r₁ = []) (hw : r₂.Within r₁) :
    View.of (View.of b r₁).store r₂ = View.of b r₂ :=
  (View.mk.injEq ..).mpr ⟨rfl, backend_of_store h hw, store_of_store h hw, rfl⟩

/-- A view of a sound bundle compares as equal to itself. -/
theorem equal_self (h : b.Sound) : (View.of b r).toRaw.equal (View.of b r).toRaw = true :=
  (same_of_exposed h.canonical h.canonical fun f _ => h.sameSecret_self f).indistinguishable.equal

end View

/-! ## Both together -/

/-- **Checking a view again narrows it faithfully.**

Of a view that came out of a validation, a role that sees no more gets what it would get from the
bundle: it passes exactly if it passes there, and the views compare as equal; its own role gets an
equal view. The bundle written anew from the view holds the view's credentials as they are, whatever
marks the new wrappers bear. -/
theorem revalidation_narrows (hb : Reachable b) {v : View}
    (hv : (validate b r₁).result = .ok v) :
    (∀ r₂ : Role, r₂.Within r₁ →
        ((∃ w, (v.revalidate r₂).result = .ok w) ↔ ∃ w, (validate b r₂).result = .ok w)
          ∧ ∀ w w', (v.revalidate r₂).result = .ok w → (validate b r₂).result = .ok w' →
            w.toRaw.equal w'.toRaw = true)
      ∧ (∃ w, (v.revalidate r₁).result = .ok w ∧ w.toRaw.equal v.toRaw = true)
      ∧ v.toBundle.presentPaths = v.presentPaths
      ∧ (∀ p ∈ v.presentPaths, ∃ f l, Field.path f = p ∧ v.lookup p = .ok (some l)
          ∧ v.toBundle.get f = some l)
      ∧ ∀ distance, v.toBundle.rewrapped distance = v.toBundle := by
  obtain ⟨hi, rfl⟩ := validate_eq_ok_iff.mp hv
  have hto : (View.of b r₁).toBundle = (View.of b r₁).store := View.toBundle_eq_store hb.sound
  have hre : ∀ {r₂ : Role}, r₂.Within r₁ → ∀ w,
      ((View.of b r₁).revalidate r₂).result = .ok w ↔ (validate b r₂).result = .ok w := by
    intro r₂ hw w
    rw [View.revalidate, hto, validate_eq_ok_iff, validate_eq_ok_iff,
      View.issues_store_eq_nil_iff hi hw, View.of_store hi hw]
  refine ⟨fun r₂ hw => ⟨exists_congr (hre hw), fun w w' hr hr' => ?_⟩, ?_, ?_, ?_, ?_⟩
  · obtain ⟨-, rfl⟩ := validate_eq_ok_iff.mp ((hre hw w).mp hr)
    obtain ⟨-, rfl⟩ := validate_eq_ok_iff.mp hr'
    exact View.equal_self hb.sound
  · exact ⟨_, (hre (fun g hg => hg) _).mpr hv, View.equal_self hb.sound⟩
  · rw [hto, Bundle.presentPaths, View.presentPaths, View.present_of]
  · intro p hp
    obtain ⟨f, hf, rfl⟩ := List.mem_map.mp hp
    obtain ⟨l, hl⟩ := Option.isSome_iff_exists.mp (View.mem_present.mp hf)
    have he : r₁.exposes f.group = true :=
      (View.visible_iff.mp (View.get_of_store_get hl).1).1
    rw [hto]
    exact ⟨f, l, rfl, (View.lookup_eq_get _ f he).trans (congrArg Except.ok hl), hl⟩
  · intro d
    rw [hto]
    exact (View.sound_store hb.sound).rewrapped d

/-- A main node that also holds both credentials of a backend. -/
def mainNodeWithAvail : Bundle :=
  Bundle.empty.write .serverUrl (.text "postgres://")
    |>.write .l1RpcUrl (.secret .plain (.text "http://l1"))
    |>.write .availSeedPhrase (.text "words")
    |>.write .availGasRelayApiKey (.text "relay")

theorem revalidation_narrows_mainNodeWithAvail :
    ∃ v w w', (validate mainNodeWithAvail .mainNode).result = .ok v
      ∧ Role.Within .dataAvailabilityClient .mainNode
      ∧ (v.revalidate .dataAvailabilityClient).result = .ok w
      ∧ (validate mainNodeWithAvail .dataAvailabilityClient).result = .ok w'
      ∧ w.toRaw.equal w'.toRaw = true ∧ w'.backend = some .avail
      ∧ v.toBundle.presentPaths = v.presentPaths := by
  have hb : Reachable mainNodeWithAvail :=
    (((Reachable.empty.write .serverUrl (Or.inr ⟨_, rfl⟩)).write .l1RpcUrl
      (Or.inr ⟨_, rfl⟩)).write .availSeedPhrase (Or.inr ⟨_, rfl⟩)).write .availGasRelayApiKey
      (Or.inr ⟨_, rfl⟩)
  have hw : Role.Within .dataAvailabilityClient .mainNode := fun _ _ => rfl
  have hv := validate_eq_ok_iff.mpr
    ⟨show mainNodeWithAvail.issues .mainNode = [] by decide +kernel, rfl⟩
  have hv' := validate_eq_ok_iff.mpr
    ⟨show mainNodeWithAvail.issues .dataAvailabilityClient = [] by decide +kernel, rfl⟩
  obtain ⟨hnarrow, -, hpaths, -⟩ := revalidation_narrows hb hv
  obtain ⟨hpass, heq⟩ := hnarrow .dataAvailabilityClient hw
  obtain ⟨w, hre⟩ := hpass.mpr ⟨_, hv'⟩
  exact ⟨_, w, _, hv, hw, hre, hv', heq w _ hre hv', by decide +kernel, hpaths⟩

end Credentials
