import Credentials.Calendar
import Credentials.Role

/-!
# Raw values

What a source may yield for a path before anything is known about it: a value of a document or of a
mapping in memory. A `record` is one of the library's own objects met as a value. A map keeps its
keys in the order of their first appearance.

A collection that holds itself is unfolded a few times, and `endless` stands for the rest.

Not-a-number is the same as itself alone, so it carries two marks: which one it is, and what holds
it. A wrapper right around it, or the outermost of several, is what holds it; otherwise it holds
itself. Every other value is the same as any that looks like it, and needs no mark.

`truthy` is the emptiness test of the bundle: nothing, false, zero, and an empty text or collection
are empty.
-/

namespace Credentials

/-- The objects that appear as records: a group, a resolved backend, a bundle, or a role's view. -/
inductive RecordClass where
  | group (g : Group)
  | backend (b : Backend)
  | bundle
  | view (r : Role)
  deriving DecidableEq, Repr

/-- The name under which a record shows itself. -/
def RecordClass.name : RecordClass → String
  | group .database => "DatabaseSecrets"
  | group .l1 => "L1Secrets"
  | group .consensus => "ConsensusSecrets"
  | group .dataAvailability => "DataAvailabilityDraft"
  | group .contractVerifier => "ContractVerifierSecrets"
  | backend .avail => "AvailSecrets"
  | backend .celestia => "CelestiaSecrets"
  | backend .eigen => "EigenSecrets"
  | bundle => "SecretsBundle"
  | view r => r.viewName

/-- A value of a source. -/
inductive Raw where
  | null
  | bool (b : Bool)
  | int (n : Int)
  | float (x : Float)
  /-- Not-a-number: which one it is, and what holds it. -/
  | nan (number holder : Nat)
  | text (s : String)
  | bytes (bs : List UInt8)
  | list (xs : List Raw)
  | tuple (xs : List Raw)
  | set (xs : List Raw)
  | map (entries : List (Raw × Raw))
  | date (d : Date)
  | moment (m : Moment)
  | secret (kind : SecretKind) (value : Raw)
  | role (r : Role)
  | record (cls : RecordClass) (fields : List (String × Raw))
  /-- A collection met again on the way down into itself: a mapping, or else a list. -/
  | endless (mapping : Bool)
  deriving Inhabited

namespace Raw

/-- A floating-point number; if it is none, it is the one of a mark. -/
def ofFloat (mark : Nat) (x : Float) : Raw := if x.isNaN then nan mark mark else float x

/-- Whether a value counts as something. A wrapper counts if what it wraps does. -/
def truthy : Raw → Bool
  | null => false
  | bool b => b
  | int n => n != 0
  | float x => x != 0.0
  | nan _ _ => true
  | text s => !s.isEmpty
  | bytes bs => !bs.isEmpty
  | list xs | tuple xs | set xs => !xs.isEmpty
  | map entries => !entries.isEmpty
  | date _ | moment _ | role _ | record _ _ | endless _ => true
  | secret _ v => v.truthy

/-- The name of a value's type in messages. -/
def typeName : Raw → String
  | null => "NoneType"
  | bool _ => "bool"
  | int _ => "int"
  | float _ | nan _ _ => "float"
  | text _ => "str"
  | bytes _ => "bytes"
  | list _ | endless false => "list"
  | tuple _ => "tuple"
  | set _ => "set"
  | map _ | endless true => "dict"
  | date _ => "date"
  | moment _ => "datetime"
  | secret kind _ => kind.name
  | role _ => "Role"
  | record cls _ => cls.name

/-- A wrapper gives way to what it wraps, once. -/
def unwrap : Raw → Raw
  | secret _ v => v
  | v => v

/-- The text of a value that is a text; a role is the text of its name. -/
def asText? : Raw → Option String
  | text s => some s
  | role r => some r.name
  | _ => none

@[simp] theorem unwrap_secret (k : SecretKind) (v : Raw) : (secret k v).unwrap = v := rfl

@[simp] theorem unwrap_text (s : String) : (text s).unwrap = text s := rfl

@[simp] theorem truthy_text (s : String) : (text s).truthy = !s.isEmpty := rfl

end Raw

end Credentials
