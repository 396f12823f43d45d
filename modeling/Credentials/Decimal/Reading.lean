import Credentials.Decimal.Layout
import Credentials.Text.Character

/-!
# Reading numbers

`readInt` reads an integer of a given base, `readFloat` a decimal number with an optional exponent
or one of the names of infinity and not-a-number. Both first write the decimal digits of any script
in ASCII and trim spaces (`numberChars`), and both allow single underscores between digits.
`nearest` rounds a decimal to the nearest double, a tie to the even significand, in exact
arithmetic.
-/

namespace Credentials.Decimal

open Credentials.Text

/-! ## Characters of numbers -/

/-- A space beside a number: of the ASCII controls only those from the tab to the carriage return
count as one. -/
def isNumberSpace (c : Char) : Bool := c == ' ' || (0x09 ≤ c.toNat && c.toNat ≤ 0x0D)

/-- The ASCII character that a character counts as: a digit of any script counts as its value, a
blank beyond ASCII as a space. -/
def numberChar (c : Char) : Char :=
  if c.toNat < 0x7F then c
  else if isBlankChar c then ' '
  else ((digitValue? c).map Nat.digitChar).getD c

/-- The characters of a number, without the spaces at either end. -/
def numberChars (cs : List Char) : List Char :=
  (((cs.map numberChar).dropWhile isNumberSpace).reverse.dropWhile isNumberSpace).reverse

/-! ## Integers -/

/-- Digits with single underscores between them, most significant first; `none` if there is anything
else, no digit at all, or an underscore without a digit on both sides. `ready` says that the last
character was a digit. -/
def groupedDigits (base : Nat) : Bool → List Char → Option (List Nat)
  | ready, [] => if ready then some [] else none
  | ready, c :: r =>
    if c = '_' then if ready then groupedDigits base false r else none
    else match digitIn? base c with
      | some d => (groupedDigits base true r).map (d :: ·)
      | none => none

/-- The number that digits spell in a base. -/
def ofDigits (base : Nat) (ds : List Nat) : Nat := ds.foldl (fun n d => n * base + d) 0

/-- Why a text is not read as an integer. -/
inductive IntFault where
  /-- It is not written as an integer of the base. -/
  | malformed
  /-- It has more decimal digits than are converted. -/
  | tooLong (digits : Nat)
  deriving DecidableEq, Repr

/-- The most digits that are read in a base that is no power of two. -/
def digitLimit : Nat := 4300

/-- An optional sign: whether it is a minus, and the rest. -/
def splitSign : List Char → Bool × List Char
  | '-' :: r => (true, r)
  | '+' :: r => (false, r)
  | r => (false, r)

/-- Drops the marker of a base (`0b`, `0o`, `0x`, in either case) in front of a digit or an
underscore. -/
def dropBaseMarker (base : Nat) : List Char → List Char
  | '0' :: m :: r =>
    let marker := m.toLower
    if (base = 2 ∧ marker = 'b') ∨ (base = 8 ∧ marker = 'o') ∨ (base = 16 ∧ marker = 'x') then
      match r with
      | '_' :: r' => if r'.isEmpty then '0' :: m :: r else r'
      | [] => '0' :: m :: r
      | r => r
    else '0' :: m :: r
  | cs => cs

/-- Whether a character may stand in a run of digits of a base. -/
def standsInDigits (base : Nat) (c : Char) : Bool := c == '_' || (digitIn? base c).isSome

/-- Reads an integer of base 2, 8, 10 or 16. The digits are counted before anything behind them is
looked at. -/
def readInt (base : Nat) (cs : List Char) : Except IntFault Int :=
  let (negative, body) := splitSign (numberChars cs)
  let written := dropBaseMarker base body
  match groupedDigits base false (written.takeWhile (standsInDigits base)) with
  | none => .error .malformed
  | some ds =>
    if base = 10 ∧ digitLimit < ds.length then .error (.tooLong ds.length)
    else if written.all (standsInDigits base) then
      let n : Int := ofDigits base ds
      .ok (if negative then -n else n)
    else .error .malformed

/-! ## Floating-point numbers -/

/-- `n / d` to the nearest integer, a tie to the even one. -/
def roundDiv (n d : Nat) : Nat :=
  let floor := n / d
  let rest := 2 * (n % d)
  if d < rest ∨ (d = rest ∧ floor % 2 = 1) then floor + 1 else floor

/-- The double nearest to `digits · 10^exponent`. -/
def nearest (negative : Bool) (x : Scientific) : Float :=
  let sign := if negative then Nat.pow 2 63 else 0
  let hidden := Nat.pow 2 52
  let infinity := sign + 2047 * hidden
  let top : Int := decimalLength x.digits + x.exponent
  let bits :=
    -- far outside the range of doubles no power of ten needs to be computed
    if x.digits = 0 ∨ top < -330 then sign
    else if 330 < top then infinity
    else
      let v := Fraction.scaled x.digits 10 x.exponent
      let guess : Int := (v.num.log2 : Int) - v.den.log2 - 53
      let scaleAt (q : Int) : Fraction :=
        if 0 ≤ q then ⟨v.num, v.den * Nat.pow 2 q.toNat⟩
        else ⟨v.num * Nat.pow 2 (-q).toNat, v.den⟩
      let first := scaleAt guess
      let q := max (-1074) (if first.num / first.den < 2 * hidden then guess else guess + 1)
      let scaled := scaleAt q
      let m := roundDiv scaled.num scaled.den
      -- rounding up may carry into one more binary digit
      let (m, q) := if m = 2 * hidden then (hidden, q + 1) else (m, q)
      if 971 < q then infinity
      else if m < hidden then sign + m
      else sign + (q + 1075).toNat * hidden + (m - hidden)
  Float.ofBits (UInt64.ofNat bits)

/-- Splits before the first character of a class. -/
def splitBefore (p : Char → Bool) (cs : List Char) : List Char × List Char :=
  (cs.takeWhile (!p ·), cs.dropWhile (!p ·))

/-- A possibly empty run of grouped digits. -/
def digitRun (cs : List Char) : Option (List Nat) :=
  if cs.isEmpty then some [] else groupedDigits 10 false cs

/-- An unsigned decimal number with an optional fraction and exponent. -/
def readScientific (cs : List Char) : Option Scientific := do
  let (mantissa, power) := splitBefore (fun c => c == 'e' || c == 'E') cs
  let (whole, fraction) := splitBefore (· == '.') mantissa
  let wholeDigits ← digitRun whole
  let fractionDigits ← digitRun (fraction.drop 1)
  if wholeDigits.isEmpty && fractionDigits.isEmpty then none
  let exponent ← match power with
    | [] => some (0 : Int)
    | _ :: r =>
      let (negative, body) := splitSign r
      (groupedDigits 10 false body).map fun ds =>
        let n : Int := ofDigits 10 ds
        if negative then -n else n
  some ⟨ofDigits 10 (wholeDigits ++ fractionDigits), exponent - fractionDigits.length⟩

/-- Positive infinity. -/
def infinity : Float := Float.ofBits 0x7FF0000000000000

/-- Not a number. -/
def notANumber : Float := Float.ofBits 0x7FF8000000000000

/-- Reads a floating-point number. -/
def readFloat (cs : List Char) : Option Float :=
  let (negative, body) := splitSign (numberChars cs)
  let name := String.ofList (body.map Char.toLower)
  if name = "inf" ∨ name = "infinity" then some (if negative then -infinity else infinity)
  else if name = "nan" then some notANumber
  else (readScientific body).map (nearest negative)

end Credentials.Decimal
