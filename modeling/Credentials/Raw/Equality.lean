import Credentials.Decimal.Layout
import Credentials.Error

/-!
# Equality of raw values

Two values are the same if they are of one sort and have the same content, with three rules of their
own: truth values, integers and floating-point numbers compare as numbers, exactly; a role is the
same as the text of its name; maps and sets compare without regard to order. Not-a-number is the
same as itself, as long as one and the same thing holds it. Wrappers are the same only if they are
of one kind.

`equal` is the comparison of two values that nothing holds. It is sameness, except that not-a-number
is then unequal to everything, bare or in a wrapper (`isBareNan`).

`digest` is the value by which hashes are compared: values that are the same have the same digest, a
wrapper has the digest of what it wraps, and a text shares its digest with the bytes that store it.
A list, a set, a map or a bundle has none. Two values have equal hashes if their digests agree
(`sameHash`); the first value without a digest is the one that is told.

Main statement: `sameHash_secret`, a wrapper cannot be told from what it wraps by its hash.
-/

namespace Credentials

open Decimal

/-! ## Numbers -/

/-- The exact value of a number, where it has one. -/
inductive Magnitude where
  | finite (num : Int) (den : Nat)
  | infinite (negative : Bool)
  | nan
  deriving DecidableEq, Repr

namespace Magnitude

/-- The exact value of a double. -/
def ofFloat (x : Float) : Magnitude :=
  match Decimal.Kind.of x with
  | .nan => nan
  | .infinite negative => infinite negative
  | .finite p =>
    let v := Fraction.scaled p.significand 2 p.exponent
    finite (if p.negative then -v.num else v.num) v.den

/-- Whether two numbers are equal; not-a-number equals nothing. -/
def same : Magnitude → Magnitude → Bool
  | finite n d, finite n' d' => n * d' == n' * d
  | infinite a, infinite b => a == b
  | _, _ => false

/-- The modulus of number hashes. -/
def modulus : Nat := Nat.pow 2 61 - 1

/-- The hash of a number: its residue, where a denominator that is a power of two is a factor to
invert. Two is of order 61 modulo `2^61 - 1`, so the inverse of `2^k` is `2^(61 - k % 61)`. -/
def hash : Magnitude → Option Int
  | finite n d =>
    let inverse := Nat.pow 2 (61 - d.log2 % 61)
    let r : Int := (n.natAbs * inverse) % modulus
    let signed := if n < 0 then -r else r
    some (if signed = -1 then -2 else signed)
  | infinite negative => some (if negative then -314159 else 314159)
  | nan => none

end Magnitude

/-- By what the hash of a value is decided. -/
inductive Digest where
  | none
  | number (n : Int)
  | units (bytes : List UInt8)
  | items (ds : List Digest)
  | date (d : Date)
  | instant (aware : Bool) (n : Int)
  /-- A not-a-number by its mark. -/
  | unnumbered (mark : Nat)
  /-- A value that shares its hash with no other. -/
  | unique

mutual

/-- Whether two digests stand for equal hashes. -/
def Digest.agree : Digest → Digest → Bool
  | .none, .none => true
  | .number m, .number n => m == n
  | .units a, .units b => a == b
  | .items xs, .items ys => agreeAll xs ys
  | .date a, .date b => a == b
  | .instant a m, .instant b n => a == b && m == n
  | .unnumbered m, .unnumbered n => m == n
  | _, _ => false

/-- Whether two lists of digests agree item by item. -/
def Digest.agreeAll : List Digest → List Digest → Bool
  | [], [] => true
  | x :: xs, y :: ys => Digest.agree x y && Digest.agreeAll xs ys
  | _, _ => false

end

namespace Raw

/-- The number that a value is, if it is one. -/
def magnitude? : Raw → Option Magnitude
  | bool b => some (.finite (if b then 1 else 0) 1)
  | int n => some (.finite n 1)
  | float x => some (.ofFloat x)
  | _ => .none

/-! ## Sameness -/

mutual

/-- Whether two values are the same. -/
def same : Raw → Raw → Bool
  | null, null => true
  | text s, v => v.asText? == some s
  | role r, v => v.asText? == some r.name
  | bytes a, bytes b => a == b
  | nan _ g, nan _ h => g == h
  | list xs, list ys | tuple xs, tuple ys => sameList xs ys
  | set xs, set ys => xs.length == ys.length && allWithin xs ys
  | map xs, map ys => xs.length == ys.length && entriesWithin xs ys
  | date a, date b => a == b
  | moment a, moment b => a.same b
  | secret j v, secret k w => j == k && same v w
  | record c xs, record d ys => c == d && sameFields xs ys
  | v, w =>
    match v.magnitude?, w.magnitude? with
    | some a, some b => a.same b
    | _, _ => false

/-- Whether two lists are the same item by item. -/
def sameList : List Raw → List Raw → Bool
  | [], [] => true
  | x :: xs, y :: ys => same x y && sameList xs ys
  | _, _ => false

/-- Whether every item of the first list is one of the second. -/
def allWithin : List Raw → List Raw → Bool
  | [], _ => true
  | x :: xs, ys => ys.any (fun y => same x y) && allWithin xs ys

/-- Whether every entry of the first map is one of the second. -/
def entriesWithin : List (Raw × Raw) → List (Raw × Raw) → Bool
  | [], _ => true
  | (k, v) :: xs, ys => ys.any (fun y => same k y.1 && same v y.2) && entriesWithin xs ys

/-- Whether two records have the same slots with the same content. -/
def sameFields : List (String × Raw) → List (String × Raw) → Bool
  | [], [] => true
  | (m, x) :: xs, (n, y) :: ys => m == n && same x y && sameFields xs ys
  | _, _ => false

end

/-- Whether a value is not-a-number, bare or in wrappers. -/
def isBareNan : Raw → Bool
  | nan _ _ => true
  | secret _ v => v.isBareNan
  | _ => false

/-- Whether two values are equal. -/
def equal (v w : Raw) : Bool := !v.isBareNan && same v w

theorem equal_secret (j k : SecretKind) (v w : Raw) :
    (secret j v).equal (secret k w) = (j == k && v.equal w) := by
  cases hj : j == k <;> simp [equal, isBareNan, same, hj]

/-! ## Digests -/

/-- The bytes that store a text: one, two or four to a character, as the largest character needs. -/
def storedUnits (s : String) : List UInt8 :=
  let ns := s.toList.map Char.toNat
  let top := ns.foldl max 0
  let width := if top < 0x100 then 1 else if top < 0x10000 then 2 else 4
  ns.flatMap fun n => (List.range width).map fun i => UInt8.ofNat (n / Nat.pow 256 i)

/-- The digest of stored bytes; the empty store has the hash of zero. -/
def unitsDigest (bs : List UInt8) : Digest := if bs.isEmpty then .number 0 else .units bs

/-- The digest of a number. -/
def numberDigest (m : Magnitude) : Digest :=
  match m.hash with
  | some n => .number n
  | none => .unique

mutual

/-- The digest of a value, or the name of the type that has none. A record with one slot has the
digest of its content. -/
def digest : Raw → Except String Digest
  | null => .ok .none
  | text s => .ok (unitsDigest (storedUnits s))
  | role r => .ok (unitsDigest (storedUnits r.name))
  | bytes bs => .ok (unitsDigest bs)
  | tuple xs => (digestList xs).map .items
  | date d => .ok (.date d)
  | moment m => .ok (.instant m.offset.isSome m.instant)
  | secret _ v => digest v
  | record .bundle _ => .error RecordClass.bundle.name
  | record (.view r) fields => do
    let ds ← digestFields fields
    return .items [unitsDigest (storedUnits r.name), .items ds]
  | record _ [(_, x)] => digest x
  | record _ fields => (digestFields fields).map .items
  | list _ | endless false => .error "list"
  | set _ => .error "set"
  | map _ | endless true => .error "dict"
  | bool b => .ok (.number (if b then 1 else 0))
  | int n => .ok (numberDigest (.finite n 1))
  | float x => .ok (numberDigest (.ofFloat x))
  | nan mark _ => .ok (.unnumbered mark)

/-- The digests of the items of a list. -/
def digestList : List Raw → Except String (List Digest)
  | [] => .ok []
  | x :: xs => do
    let d ← digest x
    let ds ← digestList xs
    return d :: ds

/-- The digests of the contents of a record's slots. -/
def digestFields : List (String × Raw) → Except String (List Digest)
  | [] => .ok []
  | (_, x) :: xs => do
    let d ← digest x
    let ds ← digestFields xs
    return d :: ds

end

end Raw

/-! ## Hashes -/

/-- The digest of a value, where it has one. -/
def digestOf (v : Raw) : Except Error Digest :=
  match v.digest with
  | .ok d => .ok d
  | .error typeName => .error (.unhashable typeName)

/-- Whether two values have equal hashes. -/
def sameHash (a b : Raw) : Except Error Bool :=
  match digestOf a, digestOf b with
  | .error e, _ => .error e
  | .ok _, .error e => .error e
  | .ok x, .ok y => .ok (x.agree y)

theorem digestOf_secret (k : SecretKind) (v : Raw) : digestOf (.secret k v) = digestOf v := by
  simp [digestOf, Raw.digest]

theorem sameHash_secret (k : SecretKind) (v w : Raw) :
    sameHash (.secret k v) w = sameHash v w := by
  simp [sameHash, digestOf_secret]

end Credentials
