import Credentials.Merge
import Credentials.Record
import Credentials.Validation

/-!
# Views

A view is what a role sees of a bundle that passed its check: the groups that the role exposes and,
of the data-availability credentials, those of the resolved backend. Its store is cut down to
exactly that, so nothing else can be asked of it. A group that is shown may be another value than
one of its own sort, if one was put in its place before the check.

`validate` is the only way to a view from a bundle, and `View.reveal` the only way to a value.

Main statement: `View.lookup_eq_get`, inside the role's groups a view answers from its store.
-/

namespace Credentials

/-- What a role sees of a bundle. -/
structure View where
  role : Role
  backend : Option Backend
  store : Bundle
  /-- What is shown in the place of a group. -/
  stranger : Group → Option Raw

/-- Whether a credential stays in a view of a role with a resolved backend. -/
def visible (r : Role) (backend : Option Backend) (f : Field) : Bool :=
  r.exposes f.group && match f.backend? with
    | some x => backend == some x
    | none => true

/-- The bundle cut down to what a role sees. The group of the backends is there if one is resolved.
-/
def Bundle.restrict (b : Bundle) (r : Role) (backend : Option Backend) : Bundle where
  leaf f := if visible r backend f then b.leaf f else none
  holds g :=
    r.exposes g && if g = .dataAvailability then backend.isSome else b.holds g
  holds_of_leaf f hf := by
    have hv : visible r backend f = true := by
      by_cases h : visible r backend f = true
      · exact h
      · simp [h] at hf
    simp only [hv, if_true] at hf
    have hh := b.holds_of_leaf f hf
    cases f <;> simp_all [visible, Field.group, Field.backend?]

/-- The view of a role, for a bundle that passed its check. -/
def View.of (b : Bundle) (r : Role) : View :=
  let backend := if r.exposes .dataAvailability then b.resolved else none
  ⟨r, backend, b.restrict r backend, fun _ => none⟩

/-- Checks a bundle and hands out the role's view. -/
def validate (b : Bundle) (r : Role) : Logged View :=
  let report := b.check r
  if report.ok then ⟨[.validated r b.present.length], .ok (.of b r)⟩
  else ⟨[.refused report], .error (.invalid report)⟩

namespace View

/-! ## Looking up and revealing -/

/-- What a view holds at a path. -/
def lookup (v : View) (path : String) : Except Error (Option Leaf) :=
  match Field.ofPath? path with
  | none => .error (.unknownPath path none)
  | some f =>
    if v.role.exposes f.group then .ok (v.store.get f)
    else .error (.notExposed path v.role.name)

/-- The value at a path. -/
def reveal (v : View) (path : String) : Except Error Raw :=
  match v.lookup path with
  | .ok (some l) => .ok l.value
  | .ok none => .error (.absent path)
  | .error e => .error e

theorem lookup_eq_get (v : View) (f : Field) (h : v.role.exposes f.group = true) :
    v.lookup f.path = .ok (v.store.get f) := by
  simp [lookup, Field.ofPath?_path, h]

/-- The credentials that a view holds, in the order of the schema. -/
def present (v : View) : List Field := v.role.exposedFields.filter v.store.isSet

/-- The paths of the credentials that a view holds. -/
def presentPaths (v : View) : List String := v.present.map Field.path

/-- The bundle of exactly the view's values, written anew. -/
def toBundle (v : View) : Bundle :=
  v.present.foldl (fun b f => b.write f (Leaf.orNull (v.store.get f))) .empty

/-- Checks a view for a role, by its values alone. -/
def check (v : View) (r : Role) : Report := v.toBundle.check r

/-- Checks a view for a role and hands out the role's view of its values. -/
def revalidate (v : View) (r : Role) : Logged View := validate v.toBundle r

/-! ## Views as records -/

/-- A group of a view: the record of the resolved backend stands for the backends' group. -/
def group? (v : View) (g : Group) : Option Raw :=
  match v.stranger g with
  | some shown => some shown
  | none =>
    if g = .dataAvailability then
      v.backend.map fun x =>
        .record (.backend x)
          ((tagSlot, .text x.name)
            :: (Field.ofBackend x).map fun f => (f.localName, Leaf.orNull (v.store.get f)))
    else v.store.group? g

/-- The view as a record, its groups in increasing order of their names. -/
def toRaw (v : View) : Raw :=
  .record (.view v.role)
    (v.role.exposedGroups.map fun g => (g.name, (v.group? g).getD .null))

/-- The name of a view's accessor for a group. -/
def accessor : Group → String
  | .dataAvailability => "data_availability"
  | g => g.name

end View

end Credentials
