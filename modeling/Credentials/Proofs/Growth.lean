import Credentials.Proofs.MergeAlgebra
import Credentials.Proofs.Passing

/-!
# One more layer

A layer that clears nothing can only add to what a load holds. The rules of a check ask for more,
never for less, with one exception: at most one backend may have credentials. So a check that
passes before such a layer passes after it, unless the layer brings in a second backend, and then
this is all that is found. The view after it holds all that the view before it held: in particular
the resolved backend stays the same.

1. **Checks.** `Bundle.GrowsTo.issues_eq_nil` and `Bundle.GrowsTo.issues_of_conflict`.
2. **Views.** `View.presentPaths_of_growsTo` and `View.reveal_of_growsTo`.
3. **Loads.** `load_append_singleton` and `Layer.Gives.growsTo`.

The main statement is `added_layer_keeps`.
-/

namespace Credentials

/-! ## Checks -/

namespace Bundle

variable {a b : Bundle} {r : Role} {x : Backend}

/-- Whatever the one bundle holds something for, the other one does too. -/
def GrowsTo (a b : Bundle) : Prop := ∀ f, a.isSet f = true → b.isSet f = true

theorem GrowsTo.complete (h : a.GrowsTo b) (hx : a.Complete x) : b.Complete x :=
  fun f hf => h f (hx f hf)

/-- A resolved backend stays the resolved one, unless another one has credentials. -/
theorem GrowsTo.resolved (h : a.GrowsTo b) (hone : b.OneBackend) (hx : a.resolved = some x) :
    b.resolved = some x :=
  hone.resolved_eq_some_iff.mpr (h.complete (resolved_eq_some_iff.mp hx).2)

/-- **A check that passed still passes, unless there are several backends.** -/
theorem GrowsTo.issues_eq_nil (h : a.GrowsTo b) (hi : a.issues r = []) (hone : b.OneBackend) :
    b.issues r = [] := by
  obtain ⟨hrequired, -, hbackend⟩ := issues_eq_nil_iff.mp hi
  refine issues_eq_nil_iff.mpr ⟨fun f hf => h f (hrequired f hf), hone, fun hn => ?_⟩
  obtain ⟨x, hx⟩ := hbackend hn
  exact ⟨x, h.resolved hone hx⟩

/-- Several backends are a conflict for every role. -/
theorem backendIssues_of_not_oneBackend (h : ¬ b.OneBackend) (r : Role) :
    b.backendIssues r = [.backendConflict b.populated (b.populated.flatMap b.presentOf)] := by
  rw [oneBackend_iff, not_or, not_exists] at h
  unfold backendIssues
  split
  · next hp => exact absurd hp h.1
  · next y hp => exact absurd hp (h.2 y)
  · rfl

/-- **If there are several backends, a check that passed finds the conflict and nothing else.** -/
theorem GrowsTo.issues_of_conflict (h : a.GrowsTo b) (hi : a.issues r = [])
    (hmany : ¬ b.OneBackend) :
    b.issues r = [.backendConflict b.populated (b.populated.flatMap b.presentOf)] := by
  obtain ⟨hrequired, -⟩ := issues_eq_nil_iff.mp hi
  obtain ⟨hl1, hkeys⟩ := required_issues_eq_nil_iff.mpr fun f hf => h f (hrequired f hf)
  rw [issues, hl1, hkeys, backendIssues_of_not_oneBackend hmany]
  rfl

end Bundle

/-! ## Views -/

namespace View

variable {a b : Bundle} {r : Role} {f : Field}

theorem visible_of_growsTo (h : a.GrowsTo b) (hone : b.OneBackend)
    (hv : visible r (View.of a r).backend f = true) :
    visible r (View.of b r).backend f = true := by
  obtain ⟨he, hbackend⟩ := visible_iff.mp hv
  refine visible_iff.mpr ⟨he, fun x hx => ?_⟩
  have hda : r.exposes .dataAvailability = true := by
    rwa [← Field.exists_backend?_iff.mp ⟨x, hx⟩]
  rw [backend_of hda]
  exact h.resolved hone ((backend_of hda).symm.trans (hbackend x hx))

/-- What a view holds, the view of a bundle that has grown holds as that bundle does. -/
theorem store_get_of_growsTo (h : a.GrowsTo b) (hone : b.OneBackend)
    (hs : (View.of a r).store.isSet f = true) : (View.of b r).store.get f = b.get f :=
  store_get_of_visible (visible_of_growsTo h hone (isSet_of_store_isSet hs).1)

theorem mem_presentPaths_of {p : String} :
    p ∈ (View.of b r).presentPaths ↔ ∃ f, (View.of b r).store.isSet f = true ∧ f.path = p := by
  rw [presentPaths, List.mem_map]
  exact exists_congr fun f => and_congr_left fun _ => mem_present

/-- **No path is lost by growing.** -/
theorem presentPaths_of_growsTo (h : a.GrowsTo b) (hone : b.OneBackend) {p : String}
    (hp : p ∈ (View.of a r).presentPaths) : p ∈ (View.of b r).presentPaths := by
  obtain ⟨f, hs, rfl⟩ := mem_presentPaths_of.mp hp
  refine mem_presentPaths_of.mpr ⟨f, ?_, rfl⟩
  rw [Bundle.isSet, store_get_of_growsTo h hone hs]
  exact h f (isSet_of_store_isSet hs).2

/-- **What stays the same in the bundle is revealed as before.** -/
theorem reveal_of_growsTo (h : a.GrowsTo b) (hone : b.OneBackend)
    (hs : (View.of a r).store.isSet f = true) (hsame : b.get f = a.get f) :
    ∃ l, a.get f = some l ∧ (View.of a r).reveal f.path = .ok l.value
      ∧ (View.of b r).reveal f.path = .ok l.value := by
  obtain ⟨l, hl⟩ := Option.isSome_iff_exists.mp hs
  obtain ⟨hvisible, hal⟩ := get_of_store_get hl
  have he : r.exposes f.group = true := (visible_iff.mp hvisible).1
  have hbl : (View.of b r).store.get f = some l := by
    rw [store_get_of_growsTo h hone hs, hsame, hal]
  exact ⟨l, hal, reveal_of_held he hl, reveal_of_held he hbl⟩

end View

/-! ## Loads -/

/-- A layer that only gives: it can be read, and every pair gives a credential a text with more than
blanks. -/
structure Layer.Gives (l : Layer) : Prop where
  readable : l.fault = none
  gives : ∀ p ∈ l.pairs, (∃ f : Field, f.path = p.1) ∧ ∃ s, heldText p.2 = some s

theorem Layer.Gives.good {l : Layer} (h : l.Gives) : l.Good := by
  refine ⟨h.readable, fun p hp => ?_⟩
  obtain ⟨hf, s, hs⟩ := h.gives p hp
  exact not_badPair_iff.mpr ⟨hf, Or.inr ⟨s, (heldText_eq_some_iff.mp hs).1⟩⟩

/-- What pairs over a bundle make of it: they decide about the credentials of their paths, and the
others stay as they were. -/
structure Bundle.Overlay (b : Bundle) (pairs : List Pair) (b' : Bundle) : Prop where
  kept : ∀ f : Field, lastValue? pairs f.path = none → b'.get f = b.get f
  given : ∀ (f : Field) (v : Raw), lastValue? pairs f.path = some v →
    b'.get f = (heldText v).map fun s => ⟨f.kind, .text s⟩

/-- A layer that only gives lets a bundle grow. -/
theorem Layer.Gives.growsTo {l : Layer} {b b' : Bundle} (h : l.Gives)
    (hover : b.Overlay l.pairs b') : b.GrowsTo b' := by
  intro f hf
  rw [Bundle.isSet]
  cases hv : lastValue? l.pairs f.path with
  | none =>
    rw [hover.kept f hv]
    exact hf
  | some v =>
    obtain ⟨-, s, hs⟩ := h.gives _ (mem_of_lastValue? hv)
    rw [hover.given f v hv, hs]
    rfl

variable {layers : List Layer} {l : Layer} {b : Bundle}

/-- **One more layer goes over the bundle of the layers before it.** -/
theorem load_append_singleton (hb : (load (Source.ofLayers layers)).result = .ok b) (hl : l.Good) :
    ∃ b', (load (Source.ofLayers (layers ++ [l]))).result = .ok b' ∧ b.Overlay l.pairs b' := by
  have hall : ∀ k ∈ layers ++ [l], k.Good :=
    List.forall_mem_append.mpr ⟨good_of_load hb, List.forall_mem_singleton.mpr hl⟩
  obtain ⟨b', hb', hget⟩ := load_ofLayers_of_good hall
  have hlast : ∀ f : Field, lastValue? ((layers ++ [l]).flatMap Layer.pairs) f.path
      = (lastValue? l.pairs f.path).or (lastValue? (layers.flatMap Layer.pairs) f.path) :=
    fun f => by rw [List.flatMap_append, List.flatMap_singleton, lastValue?_append]
  refine ⟨b', hb', fun f hn => ?_, fun f v hv => ?_⟩
  · rw [hget, hlast, hn, Option.none_or, get_load hb, stream_ofLayers]
  · rw [hget, hlast, hv, Option.some_or, Option.bind_some]

/-- **One more layer breaks a valid deployment only by a second backend.**

Let a load be valid for a role, and put a layer behind that gives texts with more than blanks, and
nothing else. The load is made again. If no two backends have credentials then, it is valid too; the
view has all paths of the first one, and for those that the layer has no pair for it reveals the
same text. If two backends have credentials, the validation fails with one issue: their conflict. -/
theorem added_layer_keeps {r : Role} {v : View}
    (hb : (load (Source.ofLayers layers)).result = .ok b) (hv : (validate b r).result = .ok v)
    (hl : l.Gives) :
    ∃ b', (load (Source.ofLayers (layers ++ [l]))).result = .ok b'
      ∧ (b'.OneBackend → ∃ w, (validate b' r).result = .ok w
        ∧ (∀ p ∈ v.presentPaths, p ∈ w.presentPaths)
        ∧ ∀ p ∈ v.presentPaths, (∀ q ∈ l.pairs, q.1 ≠ p) →
          ∃ s, v.reveal p = .ok (.text s) ∧ w.reveal p = .ok (.text s))
      ∧ (¬ b'.OneBackend → ∃ i, (validate b' r).result = .error (.invalid ⟨r, [i]⟩)
        ∧ i.kind = .conflictingVariant ∧ i.finding r = Findings.conflict b') := by
  obtain ⟨hi, rfl⟩ := validate_eq_ok_iff.mp hv
  obtain ⟨b', hb', hover⟩ := load_append_singleton hb hl.good
  have hgrows : b.GrowsTo b' := hl.growsTo hover
  refine ⟨b', hb', fun hone => ?_, fun hmany => ?_⟩
  · have hi' : b'.issues r = [] := hgrows.issues_eq_nil hi hone
    refine ⟨_, validate_eq_ok_iff.mpr ⟨hi', rfl⟩,
      fun p hp => View.presentPaths_of_growsTo hgrows hone hp, fun p hp hother => ?_⟩
    obtain ⟨f, hs, rfl⟩ := View.mem_presentPaths_of.mp hp
    have hsame : b'.get f = b.get f := hover.kept f (lastValue?_eq_none_iff.mpr hother)
    obtain ⟨x, hx, hreveal, hreveal'⟩ := View.reveal_of_growsTo hgrows hone hs hsame
    -- what a load holds is a text
    obtain ⟨s, -, rfl⟩ := Option.map_eq_some_iff.mp ((get_load hb f).symm.trans hx)
    exact ⟨s, hreveal, hreveal'⟩
  · have hissues := hgrows.issues_of_conflict hi hmany
    refine ⟨_, validate_eq_error_iff.mpr ⟨?_, ?_⟩, rfl, finding_backendConflict b' r⟩
    · rw [Bundle.check, hissues]
      exact List.cons_ne_nil _ _
    · rw [Bundle.check, hissues]

/-- A client of one backend. -/
def celestiaClient : List Layer :=
  [.mapping [(.text "l1.l1_rpc_url", .text "http://l1"),
    (.text "da.celestia.private_key", .text "0x1")]]

/-- A layer that overwrites the endpoint and adds a database. -/
def siteLayer : Layer :=
  .mapping [(.text "l1", .map [(.text "l1_rpc_url", .secret .plain (.text "http://site"))]),
    (.text "database.server_url", .text "postgres://db")]

/-- A layer of another backend. -/
def eigenLayer : Layer := .mapping [(.text "da.eigen.private_key", .text "0x2")]

theorem added_layer_keeps_celestiaClient :
    ∃ b v, (load (Source.ofLayers celestiaClient)).result = .ok b
      ∧ (validate b .dataAvailabilityClient).result = .ok v
      ∧ siteLayer.Gives ∧ eigenLayer.Gives
      ∧ (∃ b' w, (load (Source.ofLayers (celestiaClient ++ [siteLayer]))).result = .ok b'
        ∧ (validate b' .dataAvailabilityClient).result = .ok w
        ∧ w.reveal "da.celestia.private_key" = .ok (.text "0x1"))
      ∧ ∃ b' i, (load (Source.ofLayers (celestiaClient ++ [eigenLayer]))).result = .ok b'
        ∧ (validate b' .dataAvailabilityClient).result
          = .error (.invalid ⟨.dataAvailabilityClient, [i]⟩)
        ∧ i.kind = .conflictingVariant := by
  have hsite : siteLayer.Gives := ⟨rfl, List.forall_mem_cons.mpr
    ⟨⟨⟨.l1RpcUrl, rfl⟩, "http://site", rfl⟩, List.forall_mem_singleton.mpr
      ⟨⟨.serverUrl, rfl⟩, "postgres://db", rfl⟩⟩⟩
  have heigen : eigenLayer.Gives :=
    ⟨rfl, List.forall_mem_singleton.mpr ⟨⟨.eigenPrivateKey, rfl⟩, "0x2", rfl⟩⟩
  have hload : (load (Source.ofLayers celestiaClient)).result
      = .ok (.ofWrites [(.l1RpcUrl, some "http://l1"), (.celestiaPrivateKey, some "0x1")]) := rfl
  have hvalid := validate_eq_ok_iff.mpr ⟨show (Bundle.ofWrites
    [(.l1RpcUrl, some "http://l1"), (.celestiaPrivateKey, some "0x1")]).issues
      .dataAvailabilityClient = [] by decide +kernel, rfl⟩
  refine ⟨_, _, hload, hvalid, hsite, heigen, ?_, ?_⟩
  · obtain ⟨b', hb', hkeeps, -⟩ := added_layer_keeps hload hvalid hsite
    have hone : b'.OneBackend := by
      obtain rfl := Except.ok.inj hb'
      exact Bundle.oneBackend_iff.mpr (Or.inr ⟨.celestia, by decide +kernel⟩)
    obtain ⟨w, hw, -, hreveal⟩ := hkeeps hone
    obtain ⟨s, hs, hs'⟩ := hreveal "da.celestia.private_key" (by decide +kernel) (by decide +kernel)
    obtain rfl : "0x1" = s := Raw.text.inj (Except.ok.inj hs)
    exact ⟨b', w, hb', hw, hs'⟩
  · obtain ⟨b', hb', -, hconflict⟩ := added_layer_keeps hload hvalid heigen
    have hmany : ¬ b'.OneBackend := by
      obtain rfl := Except.ok.inj hb'
      intro hone
      cases hone .celestiaPrivateKey .eigenPrivateKey .celestia .eigen rfl rfl rfl rfl
    obtain ⟨i, hi, hk, -⟩ := hconflict hmany
    exact ⟨b', i, hb', hi, hk⟩

end Credentials
