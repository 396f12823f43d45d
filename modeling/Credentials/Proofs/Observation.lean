import Credentials.Proofs.Noninterference
import Credentials.Proofs.Sameness

/-!
# Views that cannot be told apart

Two secrets are the same if they are wrappers of one kind around one text. Views of one role that
hold the same secrets in the same groups cannot be told apart by anything that can be asked of a
view: comparison and hash, texts and dumps, present paths, look-ups and reveals.

* `sameSecret_of_equal` — for texts, wrappers that compare as equal are the same secret
* `View.Same.indistinguishable` — views with the same secrets cannot be told apart
-/

namespace Credentials

/-! ## Secrets -/

/-- Nothing in two places, or wrappers of one kind around one text. -/
inductive SameSecret : Option Leaf → Option Leaf → Prop
  | none : SameSecret none none
  | some {l m : Leaf} {s : String} (hk : l.kind = m.kind) (hl : l.value.asText? = some s)
      (hm : m.value.asText? = some s) : SameSecret (some l) (some m)

namespace SameSecret

variable {x y : Option Leaf}

theorem map_kind (h : SameSecret x y) : x.map Leaf.kind = y.map Leaf.kind := by
  cases h with
  | none => rfl
  | some hk => exact congrArg Option.some hk

theorem isSome_eq (h : SameSecret x y) : x.isSome = y.isSome := by
  cases h <;> rfl

theorem twin_orNull (h : SameSecret x y) : (Leaf.orNull x).Twin (Leaf.orNull y) := by
  cases h with
  | none => exact .null
  | @some l m s hk hl hm =>
    rw [Leaf.orNull, Leaf.orNull, Leaf.toRaw, Leaf.toRaw, hk]
    exact .secret _ (.of_asText? hl hm)

end SameSecret

/-- A text is no number. -/
theorem isBareNan_of_asText? {v : Raw} {s : String} (h : v.asText? = some s) :
    v.isBareNan = false := by
  cases v <;> first | rfl | cases h

theorem SameSecret.equal {x y : Option Leaf} (h : SameSecret x y) :
    (Leaf.orNull x).equal (Leaf.orNull y) = true := by
  refine h.twin_orNull.equal ?_
  cases h with
  | none => rfl
  | @some l m s hk hl hm =>
    show l.value.isBareNan = false
    exact isBareNan_of_asText? hl

theorem not_equal_null_secret (k : SecretKind) (v : Raw) :
    Raw.null.equal (.secret k v) = false := by
  simp [Raw.equal, Raw.same, Raw.magnitude?]

theorem not_equal_secret_null (k : SecretKind) (v : Raw) :
    (Raw.secret k v).equal .null = false := by
  simp [Raw.equal, Raw.same, Raw.magnitude?]

/-- Of a text that is held in a wrapper there is only one secret that compares as equal. -/
theorem sameSecret_of_equal {x y : Option Leaf}
    (hx : ∀ l, x = some l → ∃ s, l.value.asText? = some s)
    (h : (Leaf.orNull x).equal (Leaf.orNull y) = true) : SameSecret x y := by
  cases x with
  | none =>
    cases y with
    | none => exact .none
    | some m =>
      have hn : Raw.null.equal m.toRaw = true := h
      rw [Leaf.toRaw, not_equal_null_secret] at hn
      cases hn
  | some l =>
    obtain ⟨s, hs⟩ := hx l rfl
    cases y with
    | none =>
      have hn : l.toRaw.equal .null = true := h
      rw [Leaf.toRaw, not_equal_secret_null] at hn
      cases hn
    | some m =>
      have hlm : (Raw.secret l.kind l.value).equal (.secret m.kind m.value) = true := h
      rw [Raw.equal_secret, Bool.and_eq_true, beq_iff_eq, Raw.equal, Bool.and_eq_true,
        same_iff_of_asText? hs] at hlm
      exact .some hlm.1 hs hlm.2.2

/-! ## Views -/

/-- What can be asked of two views has equal answers. -/
structure View.Indistinguishable (v w : View) : Prop where
  equal : v.toRaw.equal w.toRaw = true
  hash : sameHash v.toRaw w.toRaw = .ok true
  repr : v.toRaw.quote = w.toRaw.quote
  dump : v.dump = w.dump
  presentPaths : v.presentPaths = w.presentPaths
  lookup : ∀ p, SameOutcome (fun x y => (Leaf.orNull x).equal (Leaf.orNull y) = true)
    (v.lookup p) (w.lookup p)
  reveal : ∀ p, SameOutcome (fun x y => x.equal y = true) (v.reveal p) (w.reveal p)

/-- Alike views with the same secrets. -/
structure View.Same (v w : View) : Prop extends View.Alike v w where
  secret : ∀ f, SameSecret (v.store.get f) (w.store.get f)

namespace View.Same

variable {v w : View}

theorem slots (h : v.Same w) {fs : List Field} {name : Field → String} :
    Slots.Twin (fs.map fun f => (name f, Leaf.orNull (v.store.get f)))
      (fs.map fun f => (name f, Leaf.orNull (w.store.get f))) :=
  .map fun f _ => (h.secret f).twin_orNull

theorem twin_group? (h : v.Same w) (g : Group) :
    ((v.group? g).getD .null).Twin ((w.group? g).getD .null) := by
  unfold View.group?
  rw [(h.strangers g).1, (h.strangers g).2, h.backend]
  by_cases hg : g = .dataAvailability
  · rw [if_pos hg, if_pos hg]
    cases w.backend with
    | none => exact .null
    | some x =>
      exact .record (fun hc => by cases hc) (fun r hc => by cases hc)
        (.cons _ (.of_asText? rfl rfl) h.slots)
  · rw [if_neg hg, if_neg hg]
    show ((v.store.group? g).getD .null).Twin ((w.store.group? g).getD .null)
    unfold Bundle.group?
    rw [h.store.holds g]
    by_cases hh : w.store.holds g = true
    · rw [if_pos hh, if_pos hh]
      exact .record (fun hc => by cases hc) (fun r hc => by cases hc) h.slots
    · rw [if_neg hh, if_neg hh]
      exact .null

/-- Views with the same secrets are twins. -/
theorem twin (h : v.Same w) : v.toRaw.Twin w.toRaw := by
  rw [View.toRaw, View.toRaw, h.role]
  exact .view _ (.map fun g _ => h.twin_group? g)

theorem presentPaths (h : v.Same w) : v.presentPaths = w.presentPaths := by
  unfold View.presentPaths View.present
  rw [h.role]
  congr 1
  exact List.filter_congr fun f _ => (h.secret f).isSome_eq

theorem lookup (h : v.Same w) (p : String) :
    SameOutcome SameSecret (v.lookup p) (w.lookup p) := by
  unfold View.lookup
  rw [h.role]
  split
  · exact .error _
  · next f _ =>
    split
    · exact .ok (h.secret f)
    · exact .error _

theorem reveal (h : v.Same w) (p : String) :
    SameOutcome (fun x y => x.equal y = true) (v.reveal p) (w.reveal p) := by
  unfold View.reveal
  have hl := h.lookup p
  generalize v.lookup p = x at hl
  generalize w.lookup p = y at hl
  cases hl with
  | error e => exact .error e
  | ok hs =>
    cases hs with
    | none => exact .error _
    | some _ hl hm => exact .ok ((Raw.Twin.of_asText? hl hm).equal (isBareNan_of_asText? hl))

/-- **Views with the same secrets cannot be told apart.** -/
theorem indistinguishable (h : v.Same w) : v.Indistinguishable w where
  equal := h.twin.equal rfl
  hash := h.twin.sameHash
  repr := h.toAlike.quote_eq
  dump := h.toAlike.dump_eq
  presentPaths := h.presentPaths
  lookup p := (h.lookup p).imp fun _ _ => SameSecret.equal
  reveal := h.reveal

end View.Same

end Credentials
