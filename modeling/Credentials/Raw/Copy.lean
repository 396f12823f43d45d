import Credentials.Error

/-!
# Copies of values

A copy looks like what it was made from, and differs from it only in what holds a not-a-number. A
copy in depth has wrappers of its own around the same numbers (`copied`); what is put together again
from its written form has numbers of its own as well (`rebuilt`); and what only changes its
outermost wrapper has that one of its own (`rewrapped`). New marks are old ones moved by a distance,
so that what shared a mark still does.

The view of a role can neither be copied nor written down (`holdsView`), so a copy may fail
(`copy`).
-/

namespace Credentials.Raw

/-- A not-a-number after a change of its marks: whether a wrapper is right around it, which one it
is, and what holds it. -/
abbrev Marking := Bool → Nat → Nat → Raw

mutual

/-- The value with every not-a-number in it changed; `held` says whether a wrapper is right around
the value. -/
def mapNan (f : Marking) (held : Bool) : Raw → Raw
  | nan number holder => f held number holder
  | secret k v => secret k (mapNan f true v)
  | list xs => list (mapNanAll f xs)
  | tuple xs => tuple (mapNanAll f xs)
  | set xs => set (mapNanAll f xs)
  | map entries => map (mapNanEntries f entries)
  | record cls fields => record cls (mapNanFields f fields)
  | v => v

/-- The items with every not-a-number in them changed. -/
def mapNanAll (f : Marking) : List Raw → List Raw
  | [] => []
  | x :: xs => mapNan f false x :: mapNanAll f xs

/-- The entries with every not-a-number in them changed. -/
def mapNanEntries (f : Marking) : List (Raw × Raw) → List (Raw × Raw)
  | [] => []
  | (k, v) :: r => (mapNan f false k, mapNan f false v) :: mapNanEntries f r

/-- The slots with every not-a-number in them changed. -/
def mapNanFields (f : Marking) : List (String × Raw) → List (String × Raw)
  | [] => []
  | (n, v) :: r => (n, mapNan f false v) :: mapNanFields f r

end

/-- What a new wrapper of a value holds after a copy in depth, where every wrapper is a new one. -/
def copiedInside (distance : Nat) (v : Raw) : Raw :=
  mapNan (fun held number holder => nan number (if held then distance + holder else holder)) true v

/-- A copy in depth: every wrapper is a new one. -/
def copied (distance : Nat) (v : Raw) : Raw :=
  mapNan (fun held number holder => nan number (if held then distance + holder else holder)) false v

/-- A value put together again from its written form: everything is new. -/
def rebuilt (distance : Nat) (v : Raw) : Raw :=
  mapNan (fun _ number holder => nan (distance + number) (distance + holder)) false v

/-- What a new wrapper holds in place of an old one. -/
def rewrapped (distance : Nat) : Raw → Raw
  | nan number holder => nan number (distance + holder)
  | secret k v => secret k (v.rewrapped distance)
  | v => v

mutual

/-- Whether the view of a role stands in a value. -/
def holdsView : Raw → Bool
  | record (.view _) _ => true
  | record _ fields => anyFieldHoldsView fields
  | secret _ v => holdsView v
  | list xs | tuple xs | set xs => anyHoldsView xs
  | map entries => anyEntryHoldsView entries
  | _ => false

/-- Whether the view of a role stands in one of some items. -/
def anyHoldsView : List Raw → Bool
  | [] => false
  | x :: xs => holdsView x || anyHoldsView xs

/-- Whether the view of a role stands in one of some entries. -/
def anyEntryHoldsView : List (Raw × Raw) → Bool
  | [] => false
  | (k, v) :: r => holdsView k || holdsView v || anyEntryHoldsView r

/-- Whether the view of a role stands in one of some slots. -/
def anyFieldHoldsView : List (String × Raw) → Bool
  | [] => false
  | (_, v) :: r => holdsView v || anyFieldHoldsView r

end

/-- A way to copy a value. -/
inductive CopyDepth where
  /-- A new outermost wrapper. -/
  | shallow
  /-- New wrappers throughout. -/
  | deep
  /-- Everything new, from the written form. -/
  | written
  deriving DecidableEq, Repr

/-- A copy of a value, with marks moved by a distance, or why there is none. -/
def copy (depth : CopyDepth) (distance : Nat) (v : Raw) : Except Error Raw :=
  match depth, v with
  | .shallow, record (.view r) _ => .error (.readOnly r.viewName)
  | .shallow, v => .ok (v.rewrapped distance)
  | .deep, v => if v.holdsView then .error .uncopyable else .ok (v.copied distance)
  | .written, v => if v.holdsView then .error .uncopyable else .ok (v.rebuilt distance)

end Credentials.Raw
