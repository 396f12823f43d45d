import Credentials.Proofs.History
import Credentials.Proofs.Narrowing

/-!
# Equality by what can be looked up

Bundles and views compare as records, slot by slot and group by group, while a caller knows them by
what is found at the paths. In a bundle that loads and writes made the two come to the same: no
group is there without content, so a group that is there on one side only is found out by a
credential of it, and every wrapper is the declared one.

* `Bundle.equal_iff_get` — bundles are equal if every credential is the same secret in both
* `View.equal_iff_get` — so are views of one role, for the credentials that the role exposes
* `equal_afterCalls_iff` — so are the ends of two histories that leave the same texts
* `extensional_equality` — the three in the words of a caller
-/

namespace Credentials

/-! ## Records side by side -/

theorem same_record_iff {c d : RecordClass} {xs ys : Slots} :
    (Raw.record c xs).same (.record d ys) = true ↔ c = d ∧ Raw.sameFields xs ys = true := by
  rw [Raw.same, Bool.and_eq_true, beq_iff_eq]

/-- Slots under the same names are the same if their contents are, one by one. -/
theorem sameFields_map_iff {α : Type} {xs : List α} {name : α → String} {x y : α → Raw} :
    Raw.sameFields (xs.map fun a => (name a, x a)) (xs.map fun a => (name a, y a)) = true
      ↔ ∀ a ∈ xs, (x a).same (y a) = true := by
  induction xs with
  | nil => simp [Raw.sameFields]
  | cons a r ih =>
    rw [List.map_cons, List.map_cons, Raw.sameFields, beq_self_eq_true, Bool.true_and,
      Bool.and_eq_true, ih, List.forall_mem_cons]

theorem not_same_null_record (c : RecordClass) (xs : Slots) :
    Raw.null.same (.record c xs) = false := by
  simp [Raw.same, Raw.magnitude?]

theorem not_same_record_null (c : RecordClass) (xs : Slots) :
    (Raw.record c xs).same .null = false := by
  simp [Raw.same, Raw.magnitude?]

/-- A record is no number, so it is equal to what it is the same as. -/
theorem equal_record (c : RecordClass) (xs : Slots) (w : Raw) :
    (Raw.record c xs).equal w = (Raw.record c xs).same w := by
  have hn : (Raw.record c xs).isBareNan = false := rfl
  rw [Raw.equal, hn, Bool.not_false, Bool.true_and]

/-! ## Secrets side by side -/

/-- In a bundle of texts, a slot that is the same as another one holds the same secret. -/
theorem same_orNull_iff {x y : Option Leaf} (hx : ∀ l, x = some l → ∃ s, l.value.asText? = some s) :
    (Leaf.orNull x).same (Leaf.orNull y) = true ↔ SameSecret x y := by
  have hn : (Leaf.orNull x).isBareNan = false := by
    cases x with
    | none => rfl
    | some l =>
      obtain ⟨s, hs⟩ := hx l rfl
      show l.value.isBareNan = false
      exact isBareNan_of_asText? hs
  have he : (Leaf.orNull x).equal (Leaf.orNull y) = (Leaf.orNull x).same (Leaf.orNull y) := by
    rw [Raw.equal, hn, Bool.not_false, Bool.true_and]
  rw [← he]
  exact ⟨sameSecret_of_equal hx, SameSecret.equal⟩

/-! ## Bundles -/

namespace Bundle

variable {a b : Bundle}

/-- A group that is not there has nothing to show. -/
theorem get_eq_none_of_not_holds {g : Group} (h : b.holds g = false) {f : Field}
    (hf : f.group = g) : b.get f = none := by
  rw [← isSet_eq_false_iff, ← Bool.not_eq_true]
  intro hs
  have hh := b.holds_of_leaf f hs
  rw [hf, h] at hh
  cases hh

/-- A group that is there shows something. -/
theorem Canonical.exists_isSet (h : b.Canonical) {g : Group} (hg : b.holds g = true) :
    ∃ f : Field, f.group = g ∧ b.isSet f = true := by
  rw [h g, List.any_eq_true] at hg
  obtain ⟨f, hf, hs⟩ := hg
  exact ⟨f, Field.mem_ofGroup.mp hf, hs⟩

/-- Bundles with the same secrets of a group both have the group, or neither has. -/
theorem holds_eq_of_sameSecret (ha : a.Sound) (hb : b.Sound) {g : Group}
    (h : ∀ f : Field, f.group = g → SameSecret (a.get f) (b.get f)) : a.holds g = b.holds g :=
  ha.canonical.holds_congr hb.canonical fun f hf => (h f hf).isSome_eq

/-- A group that is there on one side only is not the same on the other. -/
theorem not_same_group?_of_holds_ne {g : Group} (h : a.holds g ≠ b.holds g) :
    ((a.group? g).getD .null).same ((b.group? g).getD .null) = false := by
  unfold group?
  cases hga : a.holds g with
  | false =>
    cases hgb : b.holds g with
    | false => exact absurd (hga.trans hgb.symm) h
    | true => exact not_same_null_record _ _
  | true =>
    cases hgb : b.holds g with
    | false => exact not_same_record_null _ _
    | true => exact absurd (hga.trans hgb.symm) h

/-- **Groups are the same if their credentials are the same secrets.** A group that is there on one
side only would show a credential that the other side lacks. -/
theorem same_group?_iff (ha : a.Sound) (hb : b.Sound) (g : Group) :
    ((a.group? g).getD .null).same ((b.group? g).getD .null) = true
      ↔ ∀ f : Field, f.group = g → SameSecret (a.get f) (b.get f) := by
  by_cases hholds : a.holds g = b.holds g
  · unfold group?
    cases hgb : b.holds g with
    | false =>
      have hga : a.holds g = false := hholds.trans hgb
      rw [hga]
      refine iff_of_true Raw.Twin.null.same fun f hf => ?_
      rw [get_eq_none_of_not_holds hga hf, get_eq_none_of_not_holds hgb hf]
      exact .none
    | true =>
      rw [hholds.trans hgb]
      refine same_record_iff.trans ((and_iff_right rfl).trans ?_)
      rw [sameFields_map_iff]
      refine forall_congr' fun f => ?_
      rw [same_orNull_iff fun l hl => ha.asText? hl]
      exact imp_congr_left Field.mem_ofGroup
  · exact iff_of_false (Bool.eq_false_iff.mp (not_same_group?_of_holds_ne hholds)) fun h =>
      hholds (holds_eq_of_sameSecret ha hb h)

/-- **Bundles that loads and writes made are equal if every credential is the same secret in
both.** -/
theorem equal_iff_get (ha : a.Sound) (hb : b.Sound) :
    a.toRaw.equal b.toRaw = true ↔ ∀ f, SameSecret (a.get f) (b.get f) := by
  rw [toRaw, toRaw, equal_record, same_record_iff, and_iff_right rfl, sameFields_map_iff]
  simp only [same_group?_iff ha hb]
  exact ⟨fun h f => h f.group (Group.mem_all _) f rfl, fun h g _ f _ => h f⟩

end Bundle

/-! ## Views -/

theorem Role.mem_exposedGroups {r : Role} {g : Group} :
    g ∈ r.exposedGroups ↔ r.exposes g = true := by
  rw [exposedGroups, List.mem_filter]
  refine and_iff_right ?_
  cases g <;> decide

namespace View

variable {a b : Bundle} {r : Role}

/-- A credential of a backend is held by views of this backend only. -/
theorem store_get_of_other_backend {f : Field} {x : Backend} (hx : f.backend? = some x)
    (h : (View.of b r).backend ≠ some x) : (View.of b r).store.get f = none :=
  if_neg fun hv => h ((visible_iff.mp hv).2 x hx)

/-- What a view shows for the backends: the record of its backend, if it has one. -/
theorem group?_dataAvailability (b : Bundle) (r : Role) :
    (View.of b r).group? .dataAvailability = (View.of b r).backend.map fun x =>
      .record (.backend x) ((tagSlot, .text x.name)
        :: (Field.ofBackend x).map fun f =>
          (f.localName, Leaf.orNull ((View.of b r).store.get f))) :=
  rfl

theorem group?_of_ne {g : Group} (h : g ≠ .dataAvailability) :
    (View.of b r).group? g = (View.of b r).store.group? g := if_neg h

/-- Views that show the same for the backends have the same backend. -/
theorem backend_eq_of_same
    (h : (((View.of a r).group? .dataAvailability).getD .null).same
      (((View.of b r).group? .dataAvailability).getD .null) = true) :
    (View.of a r).backend = (View.of b r).backend := by
  rw [group?_dataAvailability, group?_dataAvailability] at h
  cases hx : (View.of a r).backend with
  | none =>
    cases hy : (View.of b r).backend with
    | none => rfl
    | some y =>
      rw [hx, hy] at h
      exact absurd h (Bool.eq_false_iff.mp (not_same_null_record _ _))
  | some x =>
    cases hy : (View.of b r).backend with
    | none =>
      rw [hx, hy] at h
      exact absurd h (Bool.eq_false_iff.mp (not_same_record_null _ _))
    | some y =>
      rw [hx, hy] at h
      exact congrArg some (RecordClass.backend.inj (same_record_iff.mp h).1)

/-- Views that show the same for the backends hold the same secrets of them. -/
theorem sameSecret_of_same_backends (ha : a.Sound)
    (h : (((View.of a r).group? .dataAvailability).getD .null).same
      (((View.of b r).group? .dataAvailability).getD .null) = true)
    {f : Field} (hf : f.group = .dataAvailability) :
    SameSecret ((View.of a r).store.get f) ((View.of b r).store.get f) := by
  obtain ⟨x, hx⟩ := Field.exists_backend?_iff.mpr hf
  have hbackend := backend_eq_of_same h
  by_cases hax : (View.of a r).backend = some x
  · rw [group?_dataAvailability, group?_dataAvailability, ← hbackend, hax] at h
    obtain ⟨-, hslots⟩ := same_record_iff.mp h
    rw [Raw.sameFields, Bool.and_eq_true] at hslots
    have hs := sameFields_map_iff.mp hslots.2 f (Field.mem_ofBackend.mpr hx)
    exact (same_orNull_iff fun l hl => (sound_store ha).asText? hl).mp hs
  · rw [store_get_of_other_backend hx hax, store_get_of_other_backend hx (hbackend ▸ hax)]
    exact .none

/-- Views of one role that hold the same secrets cannot be told apart: each is the role's view of
its own store. -/
theorem same_of_store (ha : a.Sound) (hb : b.Sound) (hia : a.issues r = []) (hib : b.issues r = [])
    (h : ∀ f : Field, r.exposes f.group = true →
      SameSecret ((View.of a r).store.get f) ((View.of b r).store.get f)) :
    (View.of a r).Same (View.of b r) := by
  have hs := same_of_exposed (canonical_store (r := r) ha.canonical)
    (canonical_store (r := r) hb.canonical) h
  rwa [of_store hia fun _ hg => hg, of_store hib fun _ hg => hg] at hs

/-- **Views that came out of validations are equal if they are of one role and hold the same secrets
of what the role exposes.** -/
theorem equal_iff_get (ha : a.Sound) (hb : b.Sound) (hia : a.issues r = []) {r' : Role}
    (hib : b.issues r' = []) :
    (View.of a r).toRaw.equal (View.of b r').toRaw = true
      ↔ r = r' ∧ ∀ f : Field, r.exposes f.group = true →
        SameSecret ((View.of a r).store.get f) ((View.of b r').store.get f) := by
  constructor
  · intro h
    rw [toRaw, toRaw, equal_record, same_record_iff] at h
    obtain rfl : r = r' := RecordClass.view.inj h.1
    refine ⟨rfl, fun f hf => ?_⟩
    have hg := sameFields_map_iff.mp h.2 f.group (Role.mem_exposedGroups.mpr hf)
    by_cases hda : f.group = .dataAvailability
    · rw [hda] at hg
      exact sameSecret_of_same_backends ha hg hda
    · rw [group?_of_ne hda, group?_of_ne hda] at hg
      exact (Bundle.same_group?_iff (sound_store ha) (sound_store hb) _).mp hg f rfl
  · rintro ⟨rfl, h⟩
    exact (same_of_store ha hb hia hib h).indistinguishable.equal

end View

/-! ## Histories -/

theorem Raw.Settable.writable {v : Raw} (h : v.Settable) : v.Writable := by
  cases h with
  | null => exact Or.inl rfl
  | text s => exact Or.inr ⟨s, rfl⟩
  | secret k s => exact Or.inr ⟨s, rfl⟩

/-- A call leaves a bundle that loads and writes can make. -/
theorem Reachable.after {b : Bundle} (hb : Reachable b) {call : Pair} (h : call.2.Settable) :
    Reachable (b.after call) := by
  obtain ⟨path, v⟩ := call
  cases hp : Field.ofPath? path with
  | none =>
    rw [Bundle.after_of_unknown b v (Field.ofPath?_eq_none_iff.mp hp)]
    exact hb
  | some f =>
    obtain rfl := Field.path_of_ofPath? hp
    rw [Bundle.after, Bundle.writeAt_path]
    exact hb.write f h.writable

theorem Reachable.afterCalls {b : Bundle} (hb : Reachable b) {calls : List Pair}
    (h : ∀ c ∈ calls, c.2.Settable) : Reachable (b.afterCalls calls) :=
  List.foldlRecOn (motive := Reachable) _ _ hb fun _ ha c hc => ha.after (h c hc)

/-- The text that a load and calls after it leave for a credential: that of the last call for its
path, and without one that of the last value in the sources. -/
def leftText (sources : List Source) (calls : List Pair) (f : Field) : Option String :=
  match lastValue? calls f.path with
  | some v => keptText v
  | none => (lastValue? (stream sources) f.path).bind heldText

theorem get_afterCalls_load {sources : List Source} {b : Bundle}
    (hb : (load sources).result = .ok b) {calls : List Pair} (h : ∀ c ∈ calls, c.2.Settable)
    (f : Field) :
    (b.afterCalls calls).get f = (leftText sources calls f).map fun s => ⟨f.kind, .text s⟩ := by
  rw [Bundle.get_afterCalls, leftText]
  cases hv : lastValue? calls f.path with
  | none => exact get_load hb f
  | some v => exact (h _ (mem_of_lastValue? hv)).leafFor_eq f

/-- Texts in the declared wrapper are the same secret if they are the same text. -/
theorem sameSecret_texts_iff {k : SecretKind} {t u : Option String} :
    SameSecret (t.map fun s => ⟨k, .text s⟩) (u.map fun s => ⟨k, .text s⟩) ↔ t = u := by
  constructor
  · intro h
    cases t with
    | none =>
      cases u with
      | none => rfl
      | some s => cases h
    | some s =>
      cases u with
      | none => cases h
      | some s' =>
        cases h with
        | some _ hl hm => exact congrArg some ((Option.some.inj hl).trans (Option.some.inj hm).symm)
  · rintro rfl
    cases t with
    | none => exact .none
    | some s => exact .some rfl rfl rfl

/-- **Two histories end in equal bundles exactly if they leave the same texts**, in whatever order
the credentials were written. -/
theorem equal_afterCalls_iff {ss ts : List Source} {a b : Bundle} (ha : (load ss).result = .ok a)
    (hb : (load ts).result = .ok b) {calls calls' : List Pair} (hc : ∀ c ∈ calls, c.2.Settable)
    (hc' : ∀ c ∈ calls', c.2.Settable) :
    (a.afterCalls calls).toRaw.equal (b.afterCalls calls').toRaw = true
      ↔ ∀ f, leftText ss calls f = leftText ts calls' f := by
  rw [Bundle.equal_iff_get ((Reachable.load ha).afterCalls hc).sound
    ((Reachable.load hb).afterCalls hc').sound]
  refine forall_congr' fun f => ?_
  rw [get_afterCalls_load ha hc, get_afterCalls_load hb hc', sameSecret_texts_iff]

/-! ## In the words of a caller -/

/-- Two answers about a credential: the same error, or contents that compare as equal. -/
abbrev SameAnswer : Except Error (Option Leaf) → Except Error (Option Leaf) → Prop :=
  SameOutcome fun x y => (Leaf.orNull x).equal (Leaf.orNull y) = true

theorem sameAnswer_ok_iff {x y : Option Leaf}
    (hx : ∀ l, x = some l → ∃ s, l.value.asText? = some s) :
    SameAnswer (.ok x) (.ok y) ↔ SameSecret x y := by
  constructor
  · rintro (_ | h)
    exact sameSecret_of_equal hx h
  · exact fun h => .ok h.equal

/-- **Bundles and views are equal by what can be looked up in them.**

In a bundle that loads and writes made, a group is there only with a credential in it, and a
credential is a text that is not empty in the declared wrapper. Two such bundles are equal if and
only if every look-up gives the same; so are two views that came out of their validations, if they
are of one role, for the look-ups that the role may make, and then their hashes and texts are equal
too. A load with calls after it ends in the same bundle as another one exactly if for each path the
two leave the same text, in whatever order they wrote. -/
theorem extensional_equality {a b : Bundle} (ha : Reachable a) (hb : Reachable b) :
    (∀ g, a.group? g = none ∨ ∃ f : Field, f.group = g ∧ a.isSet f = true)
      ∧ (∀ f l, a.get f = some l → l.kind = f.kind ∧ ∃ s, l.value.asText? = some s ∧ s ≠ "")
      ∧ (a.toRaw.equal b.toRaw = true
          ↔ ∀ f : Field, SameAnswer (a.getAt f.path) (b.getAt f.path))
      ∧ (∀ (r r' : Role) (v w : View), (validate a r).result = .ok v →
          (validate b r').result = .ok w →
          (v.toRaw.equal w.toRaw = true ↔ r = r' ∧ ∀ f : Field, r.exposes f.group = true →
              SameAnswer (v.lookup f.path) (w.lookup f.path))
            ∧ (v.toRaw.equal w.toRaw = true →
              sameHash v.toRaw w.toRaw = .ok true ∧ v.toRaw.quote = w.toRaw.quote))
      ∧ ∀ (ss ts : List Source) (a₀ b₀ : Bundle) (calls calls' : List Pair),
          (load ss).result = .ok a₀ → (load ts).result = .ok b₀ → (∀ c ∈ calls, c.2.Settable) →
          (∀ c ∈ calls', c.2.Settable) →
          ((a₀.afterCalls calls).toRaw.equal (b₀.afterCalls calls').toRaw = true
            ↔ ∀ f, leftText ss calls f = leftText ts calls' f) := by
  refine ⟨fun g => ?_, fun f l hl => ?_, ?_, fun r r' v w hv hw => ?_,
    fun _ _ _ _ _ _ ha₀ hb₀ hc hc' => equal_afterCalls_iff ha₀ hb₀ hc hc'⟩
  · cases hg : a.holds g with
    | false => exact Or.inl (if_neg (by simp [hg]))
    | true => exact Or.inr (ha.sound.canonical.exists_isSet hg)
  · obtain ⟨hk, s, hs, hne⟩ := ha.sound.proper f l hl
    exact ⟨hk, s, hs, by simpa using hne⟩
  · rw [Bundle.equal_iff_get ha.sound hb.sound]
    refine forall_congr' fun f => ?_
    rw [Bundle.getAt_path, Bundle.getAt_path]
    exact (sameAnswer_ok_iff fun l hl => ha.sound.asText? hl).symm
  · obtain ⟨hia, rfl⟩ := validate_eq_ok_iff.mp hv
    obtain ⟨hib, rfl⟩ := validate_eq_ok_iff.mp hw
    have hiff := View.equal_iff_get ha.sound hb.sound hia hib
    refine ⟨?_, fun heq => ?_⟩
    · rw [hiff]
      refine and_congr_right fun hr => forall₂_congr fun f hf => ?_
      subst hr
      rw [View.lookup_eq_get _ f hf, View.lookup_eq_get _ f hf]
      exact (sameAnswer_ok_iff fun l hl => (View.sound_store ha.sound).asText? hl).symm
    · obtain ⟨rfl, h⟩ := hiff.mp heq
      have hsame := View.same_of_store ha.sound hb.sound hia hib h
      exact ⟨hsame.indistinguishable.hash, hsame.indistinguishable.repr⟩

/-- The endpoint of `siteOverBase` by calls, in a wrapper of another kind, around a group that comes
and goes. -/
def endpointByCalls : Bundle :=
  Bundle.empty.afterCalls
    [("consensus.node_key", .text "node key"),
      ("l1.l1_rpc_url", .secret .nodeKey (.text "http://new")), ("consensus.node_key", .text "")]

theorem extensional_equality_endpointByCalls :
    ∃ a v w, (load siteOverBase).result = .ok a ∧ (validate a .prover).result = .ok v
      ∧ (validate endpointByCalls .prover).result = .ok w
      ∧ a.toRaw.equal endpointByCalls.toRaw = true ∧ v.toRaw.equal w.toRaw = true
      ∧ sameHash v.toRaw w.toRaw = .ok true := by
  have hload : (load siteOverBase).result
      = .ok (.ofWrites [(.l1RpcUrl, some "http://new"), (.serverUrl, none)]) := rfl
  have hsettable : ∀ c ∈ [("consensus.node_key", Raw.text "node key"),
      ("l1.l1_rpc_url", .secret .nodeKey (.text "http://new")), ("consensus.node_key", .text "")],
      c.2.Settable := by
    simp only [List.forall_mem_cons, List.not_mem_nil, false_imp_iff, implies_true, and_true]
    exact ⟨.text _, .secret _ _, .text _⟩
  have hb : Reachable endpointByCalls := Reachable.empty.afterCalls hsettable
  obtain ⟨-, -, hbundles, hviews, -⟩ := extensional_equality (.load hload) hb
  have hsecret : ∀ f : Field, SameSecret
      ((Bundle.ofWrites [(.l1RpcUrl, some "http://new"), (.serverUrl, none)]).get f)
      (endpointByCalls.get f) := by
    intro f
    cases f with
    | l1RpcUrl => exact .some rfl rfl rfl
    | _ => exact .none
  have hv := validate_eq_ok_iff.mpr
    ⟨show (Bundle.ofWrites [(.l1RpcUrl, some "http://new"), (.serverUrl, none)]).issues .prover = []
      by decide +kernel, rfl⟩
  have hw := validate_eq_ok_iff.mpr
    ⟨show endpointByCalls.issues .prover = [] by decide +kernel, rfl⟩
  obtain ⟨hequal, hhash⟩ := hviews _ _ _ _ hv hw
  have hvw := hequal.mpr ⟨rfl, fun f hf => ?_⟩
  · refine ⟨_, _, _, hload, hv, hw, hbundles.mpr fun f => ?_, hvw, (hhash hvw).1⟩
    rw [Bundle.getAt_path, Bundle.getAt_path]
    exact .ok (hsecret f).equal
  · rw [View.lookup_eq_get _ f hf, View.lookup_eq_get _ f hf]
    cases f with
    | l1RpcUrl => exact .ok (SameSecret.some rfl rfl rfl).equal
    | serverUrl | serverReplicaUrl | proverUrl | gatewayRpcUrl => exact .ok SameSecret.none.equal
    | _ => cases hf

end Credentials
