import Credentials.Decimal.Shortest

/-!
# How a floating-point number is written

The digits are the shortest that read back as the number (`Credentials.Decimal.Shortest`). They are
written positionally while the decimal point stands no further left than four zeros and no further
right than sixteen digits, always with a fraction; otherwise with one leading digit and an exponent
of at least two digits and a sign.
-/

namespace Credentials.Decimal

/-- Where the positional form ends and how wide an exponent is. -/
structure Layout where
  /-- The point stands right of this position in the positional form. -/
  lowest : Int
  /-- The point stands at this position or left of it in the positional form. -/
  highest : Int
  /-- The least number of exponent digits. -/
  exponentWidth : Nat

/-- The layout of every number in an answer or a message. -/
def layout : Layout := ⟨-4, 16, 2⟩

/-- A finite double taken apart: sign, significand, binary exponent, and whether the gap below it is
half the gap above. -/
structure Parts where
  negative : Bool
  significand : Nat
  exponent : Int
  tight : Bool

/-- What a double is. -/
inductive Kind where
  | nan
  | infinite (negative : Bool)
  | finite (parts : Parts)

/-- Reads the sign, exponent and fraction bits. -/
def Kind.of (x : Float) : Kind :=
  let bits : Nat := x.toBits.toNat
  let negative := bits / Nat.pow 2 63 == 1
  let biased : Nat := bits / Nat.pow 2 52 % Nat.pow 2 11
  let fraction : Nat := bits % Nat.pow 2 52
  if biased == 2047 then if fraction == 0 then .infinite negative else .nan
  else if biased == 0 then .finite ⟨negative, fraction, -1074, false⟩
  else
    .finite
      ⟨negative, fraction + Nat.pow 2 52, (biased : Int) - 1075, fraction == 0 && biased != 1⟩

/-- `n` zeros. -/
def zeros (n : Nat) : List Char := List.replicate n '0'

/-- The digits with the point at `point` places from their start. -/
def positional (ds : List Char) (point : Int) : List Char :=
  if point ≤ 0 then '0' :: '.' :: (zeros (-point).toNat ++ ds)
  else
    let whole := point.toNat
    if ds.length ≤ whole then ds ++ zeros (whole - ds.length) ++ ['.', '0']
    else ds.take whole ++ '.' :: ds.drop whole

/-- The digits with one before the point, and an exponent. -/
def exponential (l : Layout) (ds : List Char) (point : Int) : List Char :=
  let mantissa := match ds with
    | d :: e :: r => d :: '.' :: e :: r
    | short => short
  let power := point - 1
  let es := Nat.toDigits 10 power.natAbs
  mantissa ++ 'e' :: (if power < 0 then '-' else '+') :: (zeros (l.exponentWidth - es.length) ++ es)

/-- Writes a decimal in a layout. -/
def Scientific.write (l : Layout) (x : Scientific) : List Char :=
  let ds := Nat.toDigits 10 x.digits
  let point : Int := ds.length + x.exponent
  if l.lowest < point ∧ point ≤ l.highest then positional ds point else exponential l ds point

/-- The text of a double. -/
def render (x : Float) : String :=
  match Kind.of x with
  | .nan => "nan"
  | .infinite true => "-inf"
  | .infinite false => "inf"
  | .finite p =>
    let sign := if p.negative then ['-'] else []
    if p.significand == 0 then String.ofList (sign ++ ['0', '.', '0'])
    else
      String.ofList
        (sign ++ (RoundingInterval.of p.significand p.exponent p.tight).shortest.write layout)

end Credentials.Decimal
