import Credentials.Raw.Render

/-!
# Bundles

A bundle says for every credential what wrapper it holds, if any, and for every group whether the
group is there at all: a group built directly may be there without holding anything, so the second
is not decided by the first. `set` writes one credential; the group of a write is there afterwards
exactly if one of its credentials holds something.

Main statements: `get_set_self` and `get_set_of_ne`, a write changes one credential and no other;
`Canonical.set`, writing keeps groups without content away.
-/

namespace Credentials

/-- A wrapped value. What is wrapped is a text wherever sources were merged; a record built directly
may wrap anything. -/
structure Leaf where
  kind : SecretKind
  value : Raw

/-- The wrapper as a raw value. -/
def Leaf.toRaw (l : Leaf) : Raw := .secret l.kind l.value

/-- An optional wrapper as a raw value. -/
def Leaf.orNull : Option Leaf → Raw
  | some l => l.toRaw
  | none => .null

/-- The credentials of a deployment. -/
structure Bundle where
  leaf : Field → Option Leaf
  holds : Group → Bool
  holds_of_leaf : ∀ f, (leaf f).isSome = true → holds f.group = true

namespace Bundle

/-- The bundle without any group. -/
def empty : Bundle where
  leaf _ := none
  holds _ := false
  holds_of_leaf _ h := by simp at h

/-- What the bundle holds for a credential. -/
def get (b : Bundle) (f : Field) : Option Leaf := b.leaf f

/-- Whether the bundle holds something for a credential. -/
def isSet (b : Bundle) (f : Field) : Bool := (b.get f).isSome

/-- The credentials that the bundle holds, in the order of the schema. -/
def present (b : Bundle) : List Field := Field.all.filter b.isSet

/-- The paths of the credentials that the bundle holds. -/
def presentPaths (b : Bundle) : List String := b.present.map Field.path

/-- The table of credentials after one of them is replaced. -/
def replace (leaf : Field → Option Leaf) (f : Field) (l : Option Leaf) : Field → Option Leaf :=
  fun g => if g = f then l else leaf g

/-- The bundle after one credential is replaced or, by `none`, cleared. -/
def set (b : Bundle) (f : Field) (l : Option Leaf) : Bundle where
  leaf := replace b.leaf f l
  holds g :=
    if g = f.group then (Field.ofGroup g).any fun h => (replace b.leaf f l h).isSome else b.holds g
  holds_of_leaf h hh := by
    split
    · refine List.any_eq_true.2 ⟨h, ?_, hh⟩
      exact List.mem_filter.2 ⟨Field.mem_all h, by simp⟩
    · next hg =>
      have hne : h ≠ f := fun e => hg (by rw [e])
      exact b.holds_of_leaf h (by simpa [replace, hne] using hh)

/-- The wrapper for a written value: one wrapper is taken off, and a value that counts as nothing
clears the credential. -/
def leafFor (f : Field) (v : Raw) : Option Leaf :=
  if v.unwrap.truthy then some ⟨f.kind, v.unwrap⟩ else none

/-- The bundle with every wrapped value replaced. -/
def mapValues (b : Bundle) (g : Raw → Raw) : Bundle where
  leaf f := (b.leaf f).map fun l => { l with value := g l.value }
  holds := b.holds
  holds_of_leaf f h := b.holds_of_leaf f (by simpa using h)

/-- Writes a value. -/
def write (b : Bundle) (f : Field) (v : Raw) : Bundle := b.set f (leafFor f v)

@[simp] theorem get_empty (f : Field) : empty.get f = none := rfl

@[simp] theorem get_set_self (b : Bundle) (f : Field) (l : Option Leaf) :
    (b.set f l).get f = l := by
  simp [get, set, replace]

theorem get_set_of_ne (b : Bundle) {f g : Field} (l : Option Leaf) (h : g ≠ f) :
    (b.set f l).get g = b.get g := by
  simp [get, set, replace, h]

/-- Two bundles are equal if they hold the same credentials and have the same groups. -/
theorem eq_of_get_of_holds {a b : Bundle} (hl : ∀ f, a.get f = b.get f)
    (hg : ∀ g, a.holds g = b.holds g) : a = b := by
  cases a
  cases b
  simp only [Bundle.mk.injEq]
  exact ⟨funext hl, funext hg⟩

/-- No group is there without content. -/
def Canonical (b : Bundle) : Prop :=
  ∀ g, b.holds g = (Field.ofGroup g).any b.isSet

theorem canonical_empty : empty.Canonical := by
  intro g
  cases g <;> rfl

theorem Canonical.set {b : Bundle} (h : b.Canonical) (f : Field) (l : Option Leaf) :
    (b.set f l).Canonical := by
  intro g
  by_cases hg : g = f.group
  · subst hg
    simp only [Bundle.set, if_true]
    rfl
  · simp only [Bundle.set, hg, if_false, h g]
    rw [Bool.eq_iff_iff, List.any_eq_true, List.any_eq_true]
    have hne : ∀ k ∈ Field.ofGroup g, k ≠ f := by
      rintro k hk rfl
      have : k.group = g := by simpa using (List.mem_filter.1 hk).2
      exact hg this.symm
    constructor <;> rintro ⟨k, hk, hs⟩ <;> refine ⟨k, hk, ?_⟩ <;>
      simpa [isSet, get, replace, hne k hk] using hs

end Bundle

end Credentials
