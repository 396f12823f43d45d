/-!
# The shortest decimal of a binary fraction

A finite double is `m · 2^q`. The reals that round to it form an interval, whose ends belong to it
when `m` is even. Among the decimals in the interval the shortest one is chosen, and of the shortest
the one nearest to the double; a tie goes to the even last digit. The search tries 1, 2, … 17 digits
and looks at the two neighbours of the double on that decimal grid, in exact `Nat` arithmetic; 17
digits always suffice, so the search ends.
-/

namespace Credentials.Decimal

/-- A decimal number `digits · 10^exponent`. -/
structure Scientific where
  digits : Nat
  exponent : Int
  deriving DecidableEq, Repr

/-- A positive fraction. -/
structure Fraction where
  num : Nat
  den : Nat

/-- `n · b^e` as a fraction. -/
def Fraction.scaled (n b : Nat) (e : Int) : Fraction :=
  if 0 ≤ e then ⟨n * Nat.pow b e.toNat, 1⟩ else ⟨n, Nat.pow b (-e).toNat⟩

/-- How many decimal digits a number has. -/
def decimalLength (n : Nat) : Nat := (Nat.toDigits 10 n).length

/-- The `k` with `10^(k-1) ≤ v < 10^k`. -/
def Fraction.magnitude (v : Fraction) : Int :=
  let k : Int := decimalLength v.num - decimalLength v.den
  let bound := Fraction.scaled 1 10 k
  if v.num * bound.den < bound.num * v.den then k else k + 1

/-- Drops trailing zeros of the digits; `steps` bounds how many. -/
def Scientific.dropZeros : Nat → Scientific → Scientific
  | 0, x => x
  | steps + 1, x =>
    if x.digits ≠ 0 ∧ x.digits % 10 = 0 then dropZeros steps ⟨x.digits / 10, x.exponent + 1⟩ else x

/-- The same number without trailing zeros in its digits. -/
def Scientific.withoutTrailingZeros (x : Scientific) : Scientific :=
  dropZeros (decimalLength x.digits) x

/-- The interval of reals that round to a double: the double, both ends, and whether the ends
belong. -/
structure RoundingInterval where
  value : Fraction
  low : Fraction
  high : Fraction
  closed : Bool

/-- The interval of `m · 2^q`; the gap below is half as wide at a power of two (`tight`). -/
def RoundingInterval.of (m : Nat) (q : Int) (tight : Bool) : RoundingInterval where
  value := .scaled (4 * m) 2 (q - 2)
  low := .scaled (4 * m - if tight then 1 else 2) 2 (q - 2)
  high := .scaled (4 * m + 2) 2 (q - 2)
  closed := m % 2 == 0

/-- Whether a fraction lies in the interval. -/
def RoundingInterval.holds (i : RoundingInterval) (x : Fraction) : Bool :=
  let below := i.low.num * x.den
  let above := x.num * i.high.den
  if i.closed then below ≤ x.num * i.low.den && above ≤ i.high.num * x.den
  else below < x.num * i.low.den && above < i.high.num * x.den

/-- The best decimal with `count` digits, if one lies in the interval. -/
def RoundingInterval.atLength (i : RoundingInterval) (count : Nat) : Option Scientific :=
  let g := i.value.magnitude - count
  let unit := Fraction.scaled 1 10 g
  let scaledNum := i.value.num * unit.den
  let scaledDen := i.value.den * unit.num
  let lower := scaledNum / scaledDen
  let rest := 2 * (scaledNum % scaledDen)
  let here (n : Nat) : Bool := i.holds (Fraction.scaled n 10 g)
  match here lower, here (lower + 1) with
  | true, true =>
    let up := scaledDen < rest || (scaledDen == rest && lower % 2 == 1)
    some ⟨if up then lower + 1 else lower, g⟩
  | true, false => some ⟨lower, g⟩
  | false, true => some ⟨lower + 1, g⟩
  | false, false => none

/-- The shortest decimal in the interval. -/
def RoundingInterval.shortest (i : RoundingInterval) : Scientific :=
  (((List.range' 1 17).findSome? i.atLength).getD ⟨0, 0⟩).withoutTrailingZeros

end Credentials.Decimal
