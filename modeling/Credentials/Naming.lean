import Credentials.Bundle.Open

/-!
# What a name stands for

Callers name credentials by their paths and roles by their spellings. A path that is no credential's
is an error that tells the path, and is refused before anything is looked at or written; a role may
be given as itself or as any value, which then counts by its text, and the error tells the value as
it was given.

Main statements: `Field.atPath_path`, what is named is found; `getAt_ofBundle` and
`writeAt_ofBundle`, without strangers an open bundle answers as its bundle does.
-/

namespace Credentials

/-! ## Paths and spellings -/

/-- The credential at a path. -/
def Field.atPath (path : String) : Except Error Field :=
  match Field.ofPath? path with
  | some f => .ok f
  | none => .error (.unknownPath path none)

theorem Field.atPath_path (f : Field) : Field.atPath f.path = .ok f := by
  simp [Field.atPath, Field.ofPath?_path]

/-- The role that a value stands for. -/
def Role.read : Raw → Except Error Role
  | .role r => .ok r
  | v =>
    match Role.ofSpelling? v.display with
    | some r => .ok r
    | none => .error (.notARole v.quote)

theorem Role.read_text {s : String} {r : Role} (h : Role.ofSpelling? s = some r) :
    Role.read (.text s) = .ok r := by
  simp [Role.read, h]

/-! ## Bundles by paths -/

namespace Bundle

/-- What a bundle holds at a path. -/
def getAt (b : Bundle) (path : String) : Except Error (Option Leaf) :=
  (Field.atPath path).map b.get

/-- Writes a value at a path. -/
def writeAt (b : Bundle) (path : String) (v : Raw) : Except Error Bundle :=
  (Field.atPath path).map fun f => b.write f v

end Bundle

namespace OpenBundle

/-- What an open bundle shows at a path. -/
def getAt (b : OpenBundle) (path : String) : Except Error (Option Leaf) :=
  (Field.atPath path).bind b.get

/-- Writes a value at a path. -/
def writeAt (b : OpenBundle) (path : String) (v : Raw) : Except Error OpenBundle :=
  (Field.atPath path).bind fun f => b.write f v

theorem getAt_ofBundle (b : Bundle) (path : String) : (ofBundle b).getAt path = b.getAt path := by
  unfold getAt Bundle.getAt
  cases Field.atPath path <;> rfl

theorem writeAt_ofBundle (b : Bundle) (path : String) (v : Raw) :
    (ofBundle b).writeAt path v = (b.writeAt path v).map ofBundle := by
  unfold writeAt Bundle.writeAt
  cases Field.atPath path <;> rfl

end OpenBundle

end Credentials
