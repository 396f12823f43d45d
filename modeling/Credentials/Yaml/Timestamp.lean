import Credentials.Calendar
import Credentials.Decimal.Reading

/-!
# Timestamps

A date, or a date with a time of day, a fraction of a second and an offset, as written in a
document. Month and day have one or two digits; of a fraction the first six digits count.
`Timestamp.isPlain` says which of these a plain scalar is: a date alone needs two digits for month
and day.
-/

namespace Credentials.Yaml

/-- A timestamp as written: nothing is said yet about whether the date exists. -/
structure Timestamp where
  date : Date
  /-- Hour, minute, second, microsecond and offset, if there is a time of day. -/
  time : Option (Nat × Nat × Nat × Nat × Option Int)

namespace Timestamp

/-- The value of an ASCII digit. -/
def digit? (c : Char) : Option Nat := if c.isDigit then some (c.toNat - '0'.toNat) else none

/-- Exactly `n` digits in front of a text. -/
def digits? : Nat → List Char → Option (Nat × List Char)
  | 0, cs => some (0, cs)
  | _ + 1, [] => none
  | n + 1, c :: r => do
    let d ← digit? c
    let (m, rest) ← digits? n r
    return (d * Nat.pow 10 n + m, rest)

/-- One or two digits in front of a text. -/
def oneOrTwo? (cs : List Char) : Option (Nat × List Char) := (digits? 2 cs).or (digits? 1 cs)

/-- A given character in front of a text. -/
def char? (x : Char) : List Char → Option (List Char)
  | c :: r => if c = x then some r else none
  | [] => none

/-- Past spaces and tabs. -/
def skipBlanks (cs : List Char) : List Char := cs.dropWhile fun c => c == ' ' || c == '\t'

/-- What parts a date from a time of day: the letter `t`, or blanks. -/
def timeMark? (cs : List Char) : Option (List Char) :=
  match cs with
  | 'T' :: r | 't' :: r => some r
  | ' ' :: _ | '\t' :: _ => some (skipBlanks cs)
  | _ => none

/-- The microseconds of the digits after a decimal point. -/
def microseconds (ds : List Char) : Nat :=
  (ds.take 6 ++ List.replicate (6 - ds.length) '0').foldl
    (fun n c => n * 10 + (c.toNat - '0'.toNat)) 0

/-- A fraction of a second, if there is one. -/
def fraction (cs : List Char) : Nat × List Char :=
  match cs with
  | '.' :: r => (microseconds (r.takeWhile Char.isDigit), r.dropWhile Char.isDigit)
  | _ => (0, cs)

/-- An offset of hours and minutes behind its sign. -/
def signedOffset? (negative : Bool) (cs : List Char) : Option (Int × List Char) := do
  let (hours, r) ← oneOrTwo? cs
  let (minutes, r) :=
    match (char? ':' r).bind (digits? 2) with
    | some (m, r') => (m, r')
    | none => (0, r)
  let total : Int := hours * 60 + minutes
  return (if negative then -total else total, r)

/-- The end of a timestamp: nothing, or an offset behind blanks. -/
def offset? (cs : List Char) : Option (Option Int) :=
  if cs.isEmpty then some none
  else
    match skipBlanks cs with
    | ['Z'] => some (some 0)
    | '+' :: r =>
      (signedOffset? false r).bind fun p => if p.2.isEmpty then some (some p.1) else none
    | '-' :: r => (signedOffset? true r).bind fun p => if p.2.isEmpty then some (some p.1) else none
    | _ => none

/-- A time of day up to the end of the text. -/
def time? (cs : List Char) : Option (Nat × Nat × Nat × Nat × Option Int) := do
  let (hour, r) ← oneOrTwo? cs
  let r ← char? ':' r
  let (minute, r) ← digits? 2 r
  let r ← char? ':' r
  let (second, r) ← digits? 2 r
  let (micro, r) := fraction r
  let offset ← offset? r
  return (hour, minute, second, micro, offset)

/-- Reads a timestamp. -/
def parse? (cs : List Char) : Option Timestamp := do
  let (year, r) ← digits? 4 cs
  let r ← char? '-' r
  let (month, r) ← oneOrTwo? r
  let r ← char? '-' r
  let (day, r) ← oneOrTwo? r
  if r.isEmpty then return ⟨⟨year, month, day⟩, none⟩
  let r ← timeMark? r
  let time ← time? r
  return ⟨⟨year, month, day⟩, some time⟩

/-- Whether a plain scalar is a timestamp. -/
def isPlain (cs : List Char) : Bool :=
  match parse? cs with
  | some t => t.time.isSome || cs.length == 10
  | none => false

end Timestamp

end Credentials.Yaml
