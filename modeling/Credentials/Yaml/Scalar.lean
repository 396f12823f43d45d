import Credentials.Decimal.Reading
import Credentials.Error
import Credentials.Text.Base64
import Credentials.Text.Pieces
import Credentials.Text.Sigma
import Credentials.Yaml.Tag

/-!
# The values of scalars

What a scalar's text means under its tag. Integers are decimal, binary, octal (behind a zero),
hexadecimal, or a sum of sixties between colons; underscores do not count. Floating-point numbers
are decimal, sums of sixties, or one of the names of infinity and not-a-number. A text that its tag
does not fit is a fault of the scalar, except that data in base 64 makes the document malformed.
-/

namespace Credentials.Yaml

open Text Decimal

/-- Reads an integer of a base; the fault quotes the text. -/
def integer (base : Nat) (cs : List Char) : Except ScalarFault Int :=
  match readInt base cs with
  | .ok n => .ok n
  | .error .malformed => .error (.malformedInt base (String.ofList cs))
  | .error (.tooLong digits) => .error (.longInt digits)

/-- An integer without a sign or underscores. -/
def magnitudeOf (cs : List Char) : Except ScalarFault Int :=
  match cs with
  | [] => .error .emptyNumber
  | ['0'] => .ok 0
  | '0' :: 'b' :: r => integer 2 r
  | '0' :: 'x' :: r => integer 16 r
  | '0' :: _ => integer 8 cs
  | _ =>
    if cs.contains ':' then do
      let parts ← (pieces ':' cs).mapM (integer 10)
      return parts.foldl (fun n d => n * 60 + d) 0
    else integer 10 cs

/-- Without underscores. -/
def withoutBars (s : String) : List Char := s.toList.filter (· != '_')

/-- The integer of a text. -/
def intOf (s : String) : Except ScalarFault Int :=
  let cs := withoutBars s
  if cs.isEmpty then .error .emptyNumber
  else
    let (negative, body) := splitSign cs
    (magnitudeOf body).map fun n => if negative then -n else n

/-- Reads a floating-point number; the fault quotes the text. -/
def floating (cs : List Char) : Except ScalarFault Float :=
  match readFloat cs with
  | some x => .ok x
  | none => .error (.malformedFloat (String.ofList cs))

/-- The value of one at a place of a number in base sixty. -/
def sixtieth (place : Nat) : Except ScalarFault Float :=
  let weight := Nat.pow 60 place
  if Nat.pow 2 1024 ≤ weight then .error .placeOverflow else .ok (nearest false ⟨weight, 0⟩)

/-- The sum of the digits of a number in base sixty, from the last place on. -/
def sumOfSixties (place : Nat) (sum : Float) : List Float → Except ScalarFault Float
  | [] => .ok sum
  | d :: ds =>
    match sixtieth place with
    | .ok one => sumOfSixties (place + 1) (sum + d * one) ds
    | .error e => .error e

/-- The floating-point number of a text. The name of not-a-number always stands for the same one;
one that comes out otherwise has a mark of its own. -/
def floatOf (mark : Nat) (s : String) : Except ScalarFault Raw :=
  let cs := (lowerWords (String.ofList (withoutBars s))).toList
  if cs.isEmpty then .error .emptyNumber
  else
    let (negative, body) := splitSign cs
    let sign : Float := if negative then -1.0 else 1.0
    let signed (x : Float) : Raw := .ofFloat mark (sign * x)
    if body = ".inf".toList then .ok (signed infinity)
    else if body = ".nan".toList then .ok (.nan 0 0)
    else if body.contains ':' then do
      let parts ← (pieces ':' body).mapM floating
      let sum ← sumOfSixties 0 0.0 parts.reverse
      return signed sum
    else (floating body).map signed

/-- The truth value of a word, in any case. -/
def boolOf (s : String) : Except ScalarFault Bool :=
  let word := lowerWords s
  if ["yes", "true", "on"].contains word then .ok true
  else if ["no", "false", "off"].contains word then .ok false
  else .error (.unknownTruth word)

/-- The date or moment of a timestamp; a line feed at its end does not count. -/
def timestampOf (s : String) : Except ScalarFault Raw :=
  match Timestamp.parse? (dropFinalLineFeed s.toList) with
  | none => .error .noTimestamp
  | some ⟨date, none⟩ =>
    match date.check with
    | some fault => .error (.calendar fault)
    | none => .ok (.date date)
  | some ⟨date, some (hour, minute, second, micro, offset)⟩ =>
    let m : Moment := ⟨date, hour, minute, second, micro, offset⟩
    match m.check with
    | some fault => .error (.calendar fault)
    | none => .ok (.moment m)

/-- The bytes of data in base 64, which must be ASCII. -/
def binaryOf? (s : String) : Option (List UInt8) :=
  if s.toList.all fun c => c.toNat < 0x80 then Base64.decode? s.toList else none

end Credentials.Yaml
