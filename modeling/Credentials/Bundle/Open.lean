import Credentials.Dump
import Credentials.Raw.Copy
import Credentials.View

/-!
# Open bundles

Nothing keeps a caller from putting any value in the place of a bundle's group. An `OpenBundle` is a
bundle together with such strangers. A stranger has no credentials of its own, so whoever asks for
one of its group fails; but a record among the strangers takes credentials that are written to it,
and shows those from then on. A caller may also leave notes under names that start with an
underscore, which nothing else looks at.

What an open bundle shows credential by credential is a bundle again (`OpenBundle.seen`), and where
nothing fails, everything is decided by that one.

A bundle copied in depth has wrappers of its own around what it holds, and none can be had of a
bundle that holds a role's view (`copied`). A bundle that is written anew from another one keeps the
values and puts a new wrapper around each (`rewrapped`).

Main statement: `get_eq_seen`, what is shown is what the seen bundle holds.
-/

namespace Credentials

/-! ## Copies of bundles -/

namespace Bundle

/-- The bundle with a new wrapper around every value. -/
def rewrapped (distance : Nat) (b : Bundle) : Bundle := b.mapValues (·.rewrapped distance)

/-- Whether the view of a role stands in a value of the bundle. -/
def holdsView (b : Bundle) : Bool := Field.all.any fun f => (b.get f).any (·.value.holdsView)

/-- A copy in depth. -/
def copied (distance : Nat) (b : Bundle) : Except Error Bundle :=
  if b.holdsView then .error .uncopyable else .ok (b.mapValues (·.copiedInside distance))

end Bundle

/-! ## Strangers -/

/-- A value in the place of a group, and the credentials that were written to it. -/
structure Stranger where
  value : Raw
  written : List (Field × Option Leaf)

/-- A bundle, the strangers in the places of groups, and the notes left on it. -/
structure OpenBundle where
  own : Bundle
  stranger : Group → Option Stranger
  notes : Slots

namespace Stranger

/-- What a stranger shows for a credential, if it was written. -/
def get (x : Stranger) (f : Field) : Except Error (Option Leaf) :=
  match x.written.lookup f with
  | some l => .ok l
  | none => .error (.noAttribute x.value.typeName f.slot)

/-- Whether a value is a record that takes credentials. -/
def takesCredentials : Raw → Bool
  | .record (.view _) _ => false
  | .record _ _ => true
  | _ => false

/-- With a credential written; one that was written before keeps its place. -/
def put (x : Stranger) (f : Field) (l : Option Leaf) : Stranger :=
  { x with
    written :=
      if (x.written.lookup f).isSome then x.written.map fun p => if p.1 = f then (f, l) else p
      else x.written ++ [(f, l)] }

/-- Whether a stranger shows nothing for any of some credentials. -/
def isEmpty (x : Stranger) : List Field → Except Error Bool
  | [] => .ok true
  | f :: r =>
    match x.get f with
    | .error e => .error e
    | .ok (some _) => .ok false
    | .ok none => x.isEmpty r

/-- A stranger with every wrapper redacted: what has slots shows those that were written. -/
def redactedDump (x : Stranger) : Raw :=
  let slots := redactSlots (x.written.map fun p => (p.1.slot, Leaf.orNull p.2))
  match x.value with
  | .role _ => slots
  | v => if takesCredentials v then slots else v

end Stranger

namespace OpenBundle

/-- A bundle without strangers. -/
def ofBundle (b : Bundle) : OpenBundle := ⟨b, fun _ => none, []⟩

/-! ## Looking -/

/-- What an open bundle shows for a credential. -/
def get (b : OpenBundle) (f : Field) : Except Error (Option Leaf) :=
  match b.stranger f.group with
  | some x => x.get f
  | none => .ok (b.own.get f)

/-- Whether an open bundle shows something for a credential. -/
def isSet (b : OpenBundle) (f : Field) : Except Error Bool := (b.get f).map Option.isSome

/-- Looks at credentials one after the other, only to fail where one cannot be shown. -/
def probe (b : OpenBundle) : List Field → Except Error Unit
  | [] => .ok ()
  | f :: r =>
    match b.get f with
    | .ok _ => b.probe r
    | .error e => .error e

/-- The bundle of what is shown. -/
def seen (b : OpenBundle) : Bundle where
  leaf f :=
    match b.stranger f.group with
    | some x => (x.written.lookup f).join
    | none => b.own.leaf f
  holds g := b.own.holds g || (b.stranger g).isSome
  holds_of_leaf f h := by
    cases hs : b.stranger f.group with
    | some x => simp
    | none =>
      simp only [hs] at h
      simp [b.own.holds_of_leaf f h]

/-- The credentials that are shown, in the order of the schema. -/
def present (b : OpenBundle) : Except Error (List Field) :=
  (b.probe Field.all).map fun _ => b.seen.present

/-- What stands in the place of a group. -/
def group? (b : OpenBundle) (g : Group) : Option Raw :=
  match b.stranger g with
  | some x => some x.value
  | none => b.own.group? g

/-- The open bundle as a record. -/
def toRaw (b : OpenBundle) : Raw :=
  .record .bundle (Group.all.map fun g => (g.name, (b.group? g).getD .null))

/-- What an open bundle shows under a name: a group, or a note. -/
def named (b : OpenBundle) (name : String) : Except Error Raw :=
  match Group.ofName? name with
  | some g => .ok ((b.group? g).getD .null)
  | none =>
    match b.notes.get? name with
    | some v => .ok v
    | none => .error (.noAttribute RecordClass.bundle.name name)

/-! ## Writing -/

/-- With a group in its own form, or without it. -/
def setGroup (b : OpenBundle) (g : Group) (slots : Option Slots) : OpenBundle :=
  { b with
    own := b.own.setGroup g slots
    stranger := fun h => if h = g then none else b.stranger h }

/-- With a stranger in the place of a group. -/
def setStranger (b : OpenBundle) (g : Group) (x : Stranger) : OpenBundle :=
  { b with
    own := b.own.setGroup g none
    stranger := fun h => if h = g then some x else b.stranger h }

/-- Writes a value. A stranger that counts as nothing gives way to the group itself, and one that is
left without any credential to nothing. -/
def write (b : OpenBundle) (f : Field) (v : Raw) : Except Error OpenBundle :=
  match b.stranger f.group with
  | none => .ok { b with own := b.own.write f v }
  | some x =>
    if !x.value.truthy then
      let cleared := b.setGroup f.group none
      .ok { cleared with own := cleared.own.write f v }
    else if !Stranger.takesCredentials x.value then
      .error (.noAttribute x.value.typeName "model_copy")
    else
      let x' := x.put f (Bundle.leafFor f v)
      (x'.isEmpty (Field.ofGroup f.group)).map fun empty =>
        if empty then b.setGroup f.group none else b.setStranger f.group x'

/-- Whether a name is free for notes. -/
def isNote (name : String) : Bool := name.toList.head? == some '_'

/-- Assigns a group as a whole, whatever the value, or leaves a note; nothing takes a group away. -/
def assign (b : OpenBundle) (name : String) (v : Raw) : Except Error OpenBundle :=
  match Group.ofName? name with
  | some g =>
    match v with
    | .null => .ok (b.setGroup g none)
    | .record cls slots =>
      .ok (if cls = .group g then b.setGroup g (some slots) else b.setStranger g ⟨v, []⟩)
    | v => .ok (b.setStranger g ⟨v, []⟩)
  | none =>
    if isNote name then .ok { b with notes := b.notes ++ [(name, v)] } else .error (.noGroup name)

/-- Why nothing is assigned under a name of a shown value, unless it is a note on a record: a group
is frozen, a wrapper immutable, a view read-only, and other values have no attributes. -/
def frozenFault (shown : Raw) (name : String) : Option Error :=
  match shown with
  | .record (.view r) _ => some (.readOnly r.viewName)
  | .record cls _ =>
    if isNote name then none else some (.record cls.name [(.frozenInstance, [name])])
  | .secret k _ => some (.immutable k.name)
  | v => some (.noAttribute v.typeName name)

/-! ## Checking -/

/-- The populated backends with their credentials, if the group of the backends is there. -/
def draft? (b : OpenBundle) : Except Error (Option (List (Backend × List Field))) :=
  match b.stranger .dataAvailability with
  | some x => .error (.noAttribute x.value.typeName "populated_paths")
  | none => .ok b.own.draft?

/-- The report on an open bundle for a role; the rules look at what they need in their order. -/
def check (b : OpenBundle) (r : Role) : Except Error Report := do
  b.probe r.required
  let _ ← b.draft?
  return b.seen.check r

/-- Checks an open bundle and hands out the role's view; a stranger stays in its place. -/
def validate (b : OpenBundle) (r : Role) : Logged View :=
  match b.check r with
  | .error e => ⟨[], .error e⟩
  | .ok report =>
    match if report.ok then b.probe Field.all else .ok () with
    | .error e => ⟨[], .error e⟩
    | .ok () =>
      let checked := Credentials.validate b.seen r
      ⟨checked.logs, checked.result.map fun v =>
        { v with stranger := fun g => (b.stranger g).map Stranger.value }⟩

/-! ## Dumps and copies -/

/-- The nested dump of what is shown. -/
def dump (b : OpenBundle) : Except Error Raw := (b.probe Field.all).map fun _ => b.seen.dump

/-- The open bundle group by group, with every wrapper redacted. -/
def groupDump (b : OpenBundle) : Raw :=
  .map (Group.all.map fun g =>
    (.text g.name, match b.stranger g with
      | some x => x.redactedDump
      | none => b.own.groupDumpOf g))

/-- Whether the view of a role stands in an open bundle. -/
def holdsView (b : OpenBundle) : Bool :=
  b.own.holdsView || b.notes.any (·.2.holdsView)
    || Group.all.any fun g => (b.stranger g).any fun x =>
      x.value.holdsView || x.written.any fun p => (Leaf.orNull p.2).holdsView

/-- A copy in depth. -/
def copied (distance : Nat) (b : OpenBundle) : Except Error OpenBundle :=
  if b.holdsView then .error .uncopyable
  else
    let leaf (l : Leaf) : Leaf := { l with value := l.value.copiedInside distance }
    .ok {
      own := b.own.mapValues (·.copiedInside distance)
      stranger := fun g => (b.stranger g).map fun x =>
        ⟨x.value.copied distance, x.written.map fun p => (p.1, p.2.map leaf)⟩
      notes := b.notes.map fun p => (p.1, p.2.copied distance) }

/-! ## What is shown -/

theorem get_eq_seen {b : OpenBundle} {f : Field} {l : Option Leaf} (h : b.get f = .ok l) :
    b.seen.get f = l := by
  simp only [get] at h
  simp only [Bundle.get, seen]
  split at h
  · next x hx =>
    simp only [Stranger.get] at h
    split at h
    · next l' hl => simp_all
    · simp at h
  · simpa [Bundle.get] using h

end OpenBundle

end Credentials
