import Credentials.Proofs.Passing
import Credentials.Proofs.Reveal

/-!
# What a passed check is worth

A check asks whether credentials are set, not whether there is anything in them. What a role needs
is held by a bundle that passed and is revealed by the view as it stands; so it can be used if the
bundle has no wrapper around an empty text. Loads and writes never make such a wrapper, since an
empty text clears the credential. A bundle that is built directly has one for every empty text that
it was given.

* `View.reveal_of_required`, `View.reveal_of_resolved` — what a role needs is revealed as it stands
* `Assembled.filled` — no wrapper is empty if no empty text was given for a group
* `passed_usable` — then what a role needs is revealed as a text that is not empty
* `passed_usable_emptyEndpoint` — otherwise it need not be
-/

namespace Credentials

variable {b : Bundle} {r : Role} {f : Field}

/-! ## What a role needs is revealed -/

namespace View

/-- What is set and stays in the view is revealed as it stands. -/
theorem reveal_of_visible (hv : visible r (View.of b r).backend f = true)
    (hs : b.isSet f = true) :
    ∃ l, b.get f = some l ∧ (View.of b r).reveal f.path = .ok l.value := by
  obtain ⟨l, hl⟩ := Option.isSome_iff_exists.mp hs
  exact ⟨l, hl, reveal_of_held (visible_iff.mp hv).1 ((store_get_of_visible hv).trans hl)⟩

/-- **A required credential is held by a bundle that passed, and revealed as it stands.** -/
theorem reveal_of_required (h : b.issues r = []) (hf : f ∈ r.required) :
    ∃ l, b.get f = some l ∧ (View.of b r).reveal f.path = .ok l.value := by
  have hv : visible r (View.of b r).backend f = true :=
    visible_of_no_backend _ (Role.exposes_of_mem_required hf) (Role.backend?_of_mem_required hf)
  exact reveal_of_visible hv ((Bundle.issues_eq_nil_iff.mp h).1 f hf)

/-- **So is every credential of the resolved backend, for a role that sees backends.** -/
theorem reveal_of_resolved (he : r.exposes .dataAvailability = true) {x : Backend}
    (hx : b.resolved = some x) (hf : f.backend? = some x) :
    ∃ l, b.get f = some l ∧ (View.of b r).reveal f.path = .ok l.value := by
  have hv : visible r (View.of b r).backend f = true :=
    visible_of_backend ((backend_of he).trans hx) he hf
  exact reveal_of_visible hv ((Bundle.resolved_eq_some_iff.mp hx).2 f hf)

end View

/-! ## Wrappers around something -/

/-- A text that is not empty. -/
def Raw.NonEmptyText (v : Raw) : Prop := ∃ s, v.asText? = some s ∧ s.isEmpty = false

/-- Nothing, or a text that is not empty, wrapped or not. -/
def Raw.Supplied (v : Raw) : Prop := v = .null ∨ v.unwrap.NonEmptyText

/-- Slots with nothing empty in them. -/
def Slots.Supplied (s : Slots) : Prop := ∀ p ∈ s, p.2.Supplied

/-- A value for a group with nothing empty in it: nothing, a mapping, or the record of a group. -/
inductive GroupSupplied : Raw → Prop
  | null : GroupSupplied .null
  | map {entries : List (Raw × Raw)} (h : ∀ p ∈ entries, p.2.Supplied) :
      GroupSupplied (.map entries)
  | record {g : Group} {slots : Slots} (h : slots.Supplied) :
      GroupSupplied (.record (.group g) slots)

/-- Every wrapper of the bundle is around a text that is not empty. -/
def Bundle.Filled (b : Bundle) : Prop := ∀ f l, b.get f = some l → l.value.NonEmptyText

/-- A wrapper around a value wraps what the value would give way to. -/
theorem unwrap_wrap (k : SecretKind) (v : Raw) : (wrap k v).unwrap = v.unwrap := by
  cases v with
  | secret own v =>
    rw [wrap]
    split <;> rfl
  | _ => rfl

theorem supplied_optionalSlot (k : SecretKind) {given : Option Raw}
    (h : ∀ v, given = some v → v.Supplied) : (optionalSlot k given).Supplied := by
  unfold optionalSlot
  split
  · exact Or.inl rfl
  · exact Or.inl rfl
  · next v hn =>
    rcases h v rfl with rfl | hv
    · exact absurd rfl hn
    · refine Or.inr ?_
      rw [unwrap_wrap]
      exact hv

/-- A group built from values that are not empty has nothing empty in it. -/
theorem supplied_of_buildGroup {g : Group} {given slots : Slots} (hs : given.Supplied)
    (h : buildGroup g given = .ok slots) : slots.Supplied := by
  unfold buildGroup at h
  split at h
  · obtain rfl := Except.ok.inj h
    intro p hp
    obtain ⟨f, -, rfl⟩ := List.mem_map.mp hp
    exact supplied_optionalSlot f.kind fun v hv => hs _ (mem_of_lastValue? hv)
  · cases h

theorem supplied_of_buildGroupValue {g : Group} {v : Raw} {slots? : Option Slots}
    (hv : GroupSupplied v) (h : buildGroupValue g v = .ok slots?) :
    ∀ slots, slots? = some slots → slots.Supplied := by
  cases hv with
  | null =>
    obtain rfl := Except.ok.inj h
    rintro _ ⟨⟩
  | @map entries he =>
    rw [buildGroupValue] at h
    generalize hb : buildGroup g (entries.map fun p => (p.1.display, p.2)) = built at h
    cases built with
    | error e => cases h
    | ok slots =>
      obtain rfl := Except.ok.inj h
      rintro _ ⟨⟩
      refine supplied_of_buildGroup (fun p hp => ?_) hb
      obtain ⟨q, hq, rfl⟩ := List.mem_map.mp hp
      exact he q hq
  | record hr =>
    rw [buildGroupValue] at h
    split at h
    · obtain rfl := Except.ok.inj h
      rintro _ ⟨⟩
      exact hr
    · cases h

namespace Bundle.Filled

theorem empty : Bundle.empty.Filled := by
  intro f l h
  rw [get_empty] at h
  cases h

theorem setGroup (hb : b.Filled) (g : Group) {slots? : Option Slots}
    (hs : ∀ slots, slots? = some slots → slots.Supplied) : (b.setGroup g slots?).Filled := by
  intro f l hl
  have hl' : (if f.group = g then (slots?.bind (·.get? f.slot)).bind Leaf.ofRaw? else b.get f)
      = some l := hl
  split at hl'
  · obtain ⟨v, hv, hw⟩ := Option.bind_eq_some_iff.mp hl'
    obtain ⟨slots, rfl, hget⟩ := Option.bind_eq_some_iff.mp hv
    have hm : v.Supplied := hs slots rfl _ (mem_of_lastValue? hget)
    cases v with
    | secret k x =>
      obtain rfl := Option.some.inj hw
      exact hm.resolve_left (by rintro ⟨⟩)
    | _ => cases hw
  · exact hb f l hl'

/-- What a write of a text leaves is not empty. -/
theorem write (hb : b.Filled) (f : Field) {v : Raw} (hv : v.Writable) : (b.write f v).Filled := by
  intro g l hl
  by_cases hg : g = f
  · subst hg
    exact (proper_leafFor hv ((get_set_self b g _).symm.trans hl)).2
  · exact hb g l ((get_set_of_ne b _ hg).symm.trans hl)

/-- A bundle built from groups with nothing empty in them is filled. -/
theorem build {given : Slots} (hg : ∀ p ∈ given, GroupSupplied p.2)
    (h : Bundle.build given = .ok b) : b.Filled := by
  have hvalue : ∀ g : Group, GroupSupplied ((given.get? g.name).getD .null) := by
    intro g
    cases hv : given.get? g.name with
    | none => exact .null
    | some v => exact hg _ (mem_of_lastValue? hv)
  unfold Bundle.build at h
  simp only at h
  split at h
  · obtain rfl := Except.ok.inj h
    refine List.foldlRecOn (motive := Bundle.Filled) _ _ empty fun a ha p hp => ?_
    obtain ⟨g, -, rfl⟩ := List.mem_map.mp hp
    split
    · next slots? hs => exact ha.setGroup g (supplied_of_buildGroupValue (hvalue g) hs)
    · exact ha
  · cases h

end Bundle.Filled

/-! ## Bundles put together without empty texts -/

/-- A bundle that was loaded or built and then written to or given groups, where no empty text was
given for a group. -/
inductive Assembled : Bundle → Prop
  | load {sources : List Source} {b : Bundle} (h : (load sources).result = .ok b) : Assembled b
  | build {given : Slots} {b : Bundle} (hg : ∀ p ∈ given, GroupSupplied p.2)
      (h : Bundle.build given = .ok b) : Assembled b
  | write {b : Bundle} (f : Field) {v : Raw} (hb : Assembled b) (hv : v.Writable) :
      Assembled (b.write f v)
  | setGroup {b : Bundle} (g : Group) {slots? : Option Slots} (hb : Assembled b)
      (hs : ∀ slots, slots? = some slots → slots.Supplied) : Assembled (b.setGroup g slots?)

/-- **Every such bundle is filled.** -/
theorem Assembled.filled (h : Assembled b) : b.Filled := by
  induction h with
  | load h => exact fun f l hl => ((Reachable.load h).sound.proper f l hl).2
  | build hg h => exact .build hg h
  | write f _ hv ih => exact ih.write f hv
  | setGroup g _ hs ih => exact ih.setGroup g hs

/-! ## Usable credentials -/

/-- **What a role needs is revealed as a text that is not empty**: every required credential, and
those of the backend where the role needs one. -/
theorem passed_usable (hb : Assembled b) {v : View} (hv : (validate b r).result = .ok v) :
    (∀ p ∈ r.requiredPaths, ∃ x, v.reveal p = .ok x ∧ x.NonEmptyText)
      ∧ (r = .dataAvailabilityClient → ∃ x, b.resolved = some x
          ∧ ∀ f : Field, f.backend? = some x → ∃ y, v.reveal f.path = .ok y ∧ y.NonEmptyText) := by
  obtain ⟨hi, rfl⟩ := validate_eq_ok_iff.mp hv
  constructor
  · intro p hp
    obtain ⟨f, hf, rfl⟩ := Role.mem_requiredPaths.mp hp
    obtain ⟨l, hl, hr⟩ := View.reveal_of_required hi hf
    exact ⟨l.value, hr, hb.filled f l hl⟩
  · rintro rfl
    obtain ⟨x, hx⟩ := (Bundle.issues_eq_nil_iff.mp hi).2.2 rfl
    have he : Role.exposes .dataAvailabilityClient .dataAvailability = true := rfl
    refine ⟨x, hx, fun f hf => ?_⟩
    obtain ⟨l, hl, hr⟩ := View.reveal_of_resolved he hx hf
    exact ⟨l.value, hr, hb.filled f l hl⟩

/-- Two groups given as mappings, one credential wrapped. -/
def celestiaGroups : Slots :=
  [("l1", .map [(.text "l1_rpc_url", .text "http://l1"), (.text "gateway_rpc_url", .null)]),
    ("da", .map [(.text "celestia_private_key", .secret .plain (.text "0xabc"))])]

theorem passed_usable_celestiaGroups :
    ∃ b v, Bundle.build celestiaGroups = .ok b
      ∧ (validate b .dataAvailabilityClient).result = .ok v
      ∧ ∃ y, v.reveal Field.celestiaPrivateKey.path = .ok y ∧ y.NonEmptyText := by
  have hl1 : ∀ p ∈ [(Raw.text "l1_rpc_url", Raw.text "http://l1"),
      (.text "gateway_rpc_url", .null)], p.2.Supplied :=
    List.forall_mem_cons.mpr ⟨Or.inr ⟨_, rfl, by decide⟩,
      List.forall_mem_singleton.mpr (Or.inl rfl)⟩
  have hda : ∀ p ∈ [(Raw.text "celestia_private_key", Raw.secret .plain (.text "0xabc"))],
      p.2.Supplied :=
    List.forall_mem_singleton.mpr (Or.inr ⟨_, rfl, by decide⟩)
  have hgiven : ∀ p ∈ celestiaGroups, GroupSupplied p.2 :=
    List.forall_mem_cons.mpr ⟨.map hl1, List.forall_mem_singleton.mpr (.map hda)⟩
  obtain ⟨b, hb, hi, hr⟩ : ∃ b, Bundle.build celestiaGroups = .ok b
      ∧ b.issues .dataAvailabilityClient = [] ∧ b.resolved = some .celestia :=
    ⟨_, rfl, by decide +kernel, by decide +kernel⟩
  have hv := validate_eq_ok_iff.mpr ⟨hi, rfl⟩
  obtain ⟨-, hbackend⟩ := passed_usable (.build hgiven hb) hv
  obtain ⟨x, hx, hall⟩ := hbackend rfl
  obtain rfl : .celestia = x := Option.some.inj (hr.symm.trans hx)
  exact ⟨b, _, hb, hv, hall .celestiaPrivateKey rfl⟩

/-- A group with an empty text in it. -/
def emptyEndpoint : Slots := [("l1", .map [(.text "l1_rpc_url", .text "")])]

/-- An empty text in a group is no missing credential: the check passes, and the view reveals it. -/
theorem passed_usable_emptyEndpoint :
    ∃ b v, Bundle.build emptyEndpoint = .ok b ∧ (validate b .prover).result = .ok v
      ∧ Field.l1RpcUrl.path ∈ Role.prover.requiredPaths
      ∧ v.reveal Field.l1RpcUrl.path = .ok (.text "") ∧ ¬ (Raw.text "").NonEmptyText := by
  obtain ⟨b, hb, hi, hl⟩ : ∃ b, Bundle.build emptyEndpoint = .ok b ∧ b.issues .prover = []
      ∧ b.get .l1RpcUrl = some ⟨.plain, .text ""⟩ :=
    ⟨_, rfl, by decide +kernel, rfl⟩
  have hm : Field.l1RpcUrl ∈ Role.prover.required := by decide
  obtain ⟨l, hl', hr⟩ := View.reveal_of_required hi hm
  obtain rfl := Option.some.inj (hl.symm.trans hl')
  refine ⟨b, _, hb, validate_eq_ok_iff.mpr ⟨hi, rfl⟩, Role.mem_requiredPaths.mpr ⟨_, hm, rfl⟩, hr,
    ?_⟩
  rintro ⟨s, hs, hne⟩
  obtain rfl := Option.some.inj hs
  cases hne

end Credentials
