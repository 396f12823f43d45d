import Credentials.Proofs.LastWrite
import Mathlib.Data.List.Forall2

/-!
# Loads of sources that differ in their values alone

Two values are alike if nobody who sees neither can tell them apart: both nothing, both blank, both
texts with more than blanks, or both no texts at all and of the same type. Two sources are alike if
they yield alike values for the same paths.

The relation is carried through a merge step by step: judging a pair, putting a write, going through
a source, going through all sources. At the end stand two bundles that hold wrappers of the same
kinds in the same places (`load_alike`).
-/

namespace Credentials

open Text

/-! ## Alike values and sources -/

/-- Two values that differ in their content alone. A wrapper gives way to what it wraps, once. -/
inductive Raw.Alike : Raw → Raw → Prop
  | null : Alike .null .null
  | blank {v w : Raw} {s t : String} (hv : v.unwrap.asText? = some s)
      (hw : w.unwrap.asText? = some t) (hs : isBlank s = true) (ht : isBlank t = true) : Alike v w
  | filled {v w : Raw} {s t : String} (hv : v.unwrap.asText? = some s)
      (hw : w.unwrap.asText? = some t) (hs : isBlank s = false) (ht : isBlank t = false) : Alike v w
  | other {v w : Raw} (hv : v.unwrap.asText? = none) (hw : w.unwrap.asText? = none)
      (hv' : v ≠ .null) (hw' : w ≠ .null) (ht : v.unwrap.typeName = w.unwrap.typeName) : Alike v w

/-- Pairs of the same path with alike values. -/
def AlikePairs (p q : Pair) : Prop := p.1 = q.1 ∧ p.2.Alike q.2

/-- Sources of the same name that yield the same paths with alike values, and end alike. -/
structure Source.Alike (s t : Source) : Prop where
  name : s.name = t.name
  pairs : List.Forall₂ AlikePairs s.pairs t.pairs
  fault : s.fault = t.fault

/-- Two outcomes with the same error, or with results that are related. -/
inductive SameOutcome {α β : Type} (R : α → β → Prop) : Except Error α → Except Error β → Prop
  | error (e : Error) : SameOutcome R (.error e) (.error e)
  | ok {a : α} {b : β} (h : R a b) : SameOutcome R (.ok a) (.ok b)

theorem SameOutcome.map {α β γ δ : Type} {R : α → β → Prop} {S : γ → δ → Prop} {f : α → γ}
    {g : β → δ} (hfg : ∀ a b, R a b → S (f a) (g b)) {x : Except Error α} {y : Except Error β}
    (h : SameOutcome R x y) : SameOutcome S (x.map f) (y.map g) := by
  cases h with
  | error e => exact .error e
  | ok h => exact .ok (hfg _ _ h)

theorem SameOutcome.imp {α β : Type} {R S : α → β → Prop} (hrs : ∀ a b, R a b → S a b)
    {x : Except Error α} {y : Except Error β} (h : SameOutcome R x y) : SameOutcome S x y := by
  cases h with
  | error e => exact .error e
  | ok h => exact .ok (hrs _ _ h)

/-! ## Judging alike pairs -/

/-- Texts that both clear, or both hold more than blanks. -/
inductive AlikeTexts : Option String → Option String → Prop
  | none : AlikeTexts none none
  | some {s t : String} (hs : isBlank s = false) (ht : isBlank t = false) :
      AlikeTexts (some s) (some t)

/-- A write of the same credential with an alike text. -/
def AlikeWrite (p q : Field × Option String) : Prop := p.1 = q.1 ∧ AlikeTexts p.2 q.2

/-- Alike writes to the same credentials in the same order. -/
abbrev Writes.Alike : Writes → Writes → Prop := List.Forall₂ AlikeWrite

/-- Alike values are judged alike. -/
theorem textOf_alike (path : String) {v w : Raw} (h : v.Alike w) :
    SameOutcome AlikeTexts (textOf path v) (textOf path w) := by
  cases h with
  | null => exact .ok .none
  | blank hv hw hs ht =>
    rw [textOf_of_asText? hv, textOf_of_asText? hw, if_pos hs, if_pos ht]
    exact .ok .none
  | filled hv hw hs ht =>
    rw [textOf_of_asText? hv, textOf_of_asText? hw, hs, ht]
    exact .ok (.some hs ht)
  | other hv hw hv' hw' ht =>
    rw [textOf_of_other hv' hv, textOf_of_other hw' hw, ht]
    exact .error _

theorem accept_alike (source : String) {p q : Pair} (h : AlikePairs p q) :
    SameOutcome AlikeWrite (accept source p) (accept source q) := by
  obtain ⟨hp, hv⟩ := h
  unfold accept
  rw [← hp]
  cases Field.ofPath? p.1 with
  | none => exact .error _
  | some f => exact (textOf_alike p.1 hv).map fun _ _ hs => ⟨rfl, hs⟩

/-! ## Alike writes -/

theorem put_alike {w w' : Writes} (h : w.Alike w') (f : Field)
    {u u' : Option String} (hu : AlikeTexts u u') :
    (w.put f u).Alike (w'.put f u') := by
  induction h with
  | nil => exact .cons ⟨rfl, hu⟩ .nil
  | @cons p q r r' hpq hr ih =>
    obtain ⟨g, x⟩ := p
    obtain ⟨g', x'⟩ := q
    obtain ⟨hg, hx⟩ := hpq
    obtain rfl : g = g' := hg
    rw [Writes.put, Writes.put]
    by_cases hf : g = f
    · rw [if_pos hf, if_pos hf]
      exact .cons ⟨rfl, hu⟩ hr
    · rw [if_neg hf, if_neg hf]
      exact .cons ⟨rfl, hx⟩ ih

theorem writePairs_alike (source : String) {ps qs : List Pair}
    (h : List.Forall₂ AlikePairs ps qs) :
    ∀ {w w' : Writes}, w.Alike w' →
      SameOutcome Writes.Alike (writePairs source w ps) (writePairs source w' qs) := by
  induction h with
  | nil => exact fun hw => .ok hw
  | @cons p q ps qs hpq _ ih =>
    intro w w' hw
    have ha := accept_alike source hpq
    rw [writePairs, writePairs]
    generalize accept source p = x at ha
    generalize accept source q = y at ha
    cases ha with
    | error e => exact .error e
    | @ok a b hab =>
      obtain ⟨f, u⟩ := a
      obtain ⟨f', u'⟩ := b
      obtain ⟨hf, hu⟩ := hab
      obtain rfl : f = f' := hf
      exact ih (put_alike hw f hu)

/-- **Merges of alike sources leave the same records, and end with the same error or with alike
writes.** -/
theorem mergeFrom_alike {ss ts : List Source} (h : List.Forall₂ Source.Alike ss ts) :
    ∀ {w w' : Writes}, w.Alike w' →
      (mergeFrom w ss).logs = (mergeFrom w' ts).logs
        ∧ SameOutcome Writes.Alike (mergeFrom w ss).result (mergeFrom w' ts).result := by
  induction h with
  | nil => exact fun hw => ⟨rfl, .ok hw⟩
  | @cons s t ss ts hst _ ih =>
    intro w w' hw
    have hp := writePairs_alike s.name hst.pairs hw
    rw [mergeFrom, mergeFrom, ← hst.name, ← hst.fault, ← hst.pairs.length_eq]
    generalize writePairs s.name w s.pairs = x at hp
    generalize writePairs s.name w' t.pairs = y at hp
    cases hp with
    | error e => exact ⟨rfl, .error e⟩
    | ok hw₁ =>
      cases s.fault with
      | some e => exact ⟨rfl, .error e⟩
      | none =>
        obtain ⟨hlogs, hres⟩ := ih hw₁
        exact ⟨congrArg (LogRecord.read s.pairs.length s.name :: ·) hlogs, hres⟩

/-! ## Alike bundles -/

/-- Bundles with wrappers of the same kinds in the same places, and the same groups. -/
structure Bundle.Alike (a b : Bundle) : Prop where
  kind : ∀ f, (a.get f).map Leaf.kind = (b.get f).map Leaf.kind
  holds : ∀ g, a.holds g = b.holds g

theorem Bundle.Alike.isSet {a b : Bundle} (h : a.Alike b) (f : Field) : a.isSet f = b.isSet f := by
  have hk := congrArg Option.isSome (h.kind f)
  rw [Option.isSome_map, Option.isSome_map] at hk
  exact hk

/-- Wrappers of one kind in one place keep bundles alike. -/
theorem Bundle.Alike.set {a b : Bundle} (h : a.Alike b) (f : Field) {l m : Option Leaf}
    (hl : l.map Leaf.kind = m.map Leaf.kind) : (a.set f l).Alike (b.set f m) := by
  have hk : ∀ g, ((a.set f l).get g).map Leaf.kind = ((b.set f m).get g).map Leaf.kind := by
    intro g
    by_cases hg : g = f
    · rw [hg, Bundle.get_set_self, Bundle.get_set_self, hl]
    · rw [Bundle.get_set_of_ne a l hg, Bundle.get_set_of_ne b m hg, h.kind g]
  refine ⟨hk, fun g => ?_⟩
  by_cases hg : g = f.group
  · have hs : ∀ k, (replace a.leaf f l k).isSome = (replace b.leaf f m k).isSome := fun k => by
      have := congrArg Option.isSome (hk k)
      rwa [Option.isSome_map, Option.isSome_map] at this
    simp only [Bundle.set, if_pos hg, hs]
  · simp only [Bundle.set, if_neg hg, h.holds g]

/-- Alike texts leave wrappers of one kind. -/
theorem AlikeTexts.map_kind_leafFor {u u' : Option String} (h : AlikeTexts u u') (f : Field) :
    (Bundle.leafFor f (writtenRaw u)).map Leaf.kind
      = (Bundle.leafFor f (writtenRaw u')).map Leaf.kind := by
  cases h with
  | none => rfl
  | some hs ht => rw [leafFor_of_not_isBlank f hs, leafFor_of_not_isBlank f ht]; rfl

theorem foldl_write_alike {w w' : Writes} (h : w.Alike w') :
    ∀ {a b : Bundle}, a.Alike b →
      (w.foldl (fun b p => b.write p.1 (writtenRaw p.2)) a).Alike
        (w'.foldl (fun b p => b.write p.1 (writtenRaw p.2)) b) := by
  induction h with
  | nil => exact fun hab => hab
  | @cons p q w w' hpq _ ih =>
    intro a b hab
    rw [List.foldl_cons, List.foldl_cons]
    refine ih ?_
    rw [← hpq.1]
    exact hab.set p.1 (hpq.2.map_kind_leafFor p.1)

theorem Bundle.Alike.present_eq {a b : Bundle} (h : a.Alike b) : a.present = b.present :=
  List.filter_congr fun f _ => h.isSet f

/-- **Loads of alike sources leave the same records, and end with the same error or with alike
bundles.** -/
theorem load_alike {ss ts : List Source} (h : List.Forall₂ Source.Alike ss ts) :
    (load ss).logs = (load ts).logs
      ∧ SameOutcome Bundle.Alike (load ss).result (load ts).result := by
  obtain ⟨hlogs, hres⟩ : (merge ss).logs = (merge ts).logs
      ∧ SameOutcome Writes.Alike (merge ss).result (merge ts).result :=
    mergeFrom_alike h .nil
  generalize hx : (merge ss).result = x at hres
  generalize hy : (merge ts).result = y at hres
  cases hres with
  | error e =>
    rw [load_of_merge_error hx, load_of_merge_error hy]
    exact ⟨hlogs, .error e⟩
  | @ok w w' hw =>
    have hb : (Bundle.ofWrites w).Alike (Bundle.ofWrites w') :=
      foldl_write_alike hw ⟨fun _ => rfl, fun _ => rfl⟩
    rw [load_of_merge_ok hx, load_of_merge_ok hy, hlogs, h.length_eq, hb.present_eq]
    exact ⟨rfl, .ok hb⟩

end Credentials
