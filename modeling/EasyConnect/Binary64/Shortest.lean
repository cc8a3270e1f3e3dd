import EasyConnect.Binary64

namespace EasyConnect.Binary64

/-! The text of a binary64 number: the fewest digits that read back to it, and of those the
nearest; positional from 10 ^ -4 up to 10 ^ 16, otherwise with a signed exponent of two digits
or more. -/

/-- Says whether the rational rounds to `mantissa * 2 ^ exponent`: it lies between the midpoints
to the two neighbours, which belong to the interval of an even mantissa. -/
def roundsTo (mantissa : Nat) (exponent : Int) (q : Rat) : Bool :=
  let quarter := (2 : Rat) ^ (exponent - 2)
  let narrow := mantissa = normalMantissa ∧ -1074 < exponent
  let low := ((4 * mantissa - (if narrow then 1 else 2) : Nat) : Rat) * quarter
  let high := ((4 * mantissa + 2 : Nat) : Rat) * quarter
  decide (low < q ∧ q < high) || (mantissa % 2 == 0 && (q == low || q == high))

structure Decimal where
  digits : Nat
  power : Int

def Decimal.toRat (decimal : Decimal) : Rat :=
  (decimal.digits : Rat) * (10 : Rat) ^ decimal.power

/-- The better of the value's two neighbours among the multiples of `10 ^ power`, if one of them
reads back. -/
def neighbour? (mantissa : Nat) (exponent : Int) (power : Int) : Option Decimal :=
  let q := magnitude mantissa exponent
  let low : Decimal := ⟨(q / (10 : Rat) ^ power).floor.toNat, power⟩
  let high : Decimal := ⟨low.digits + 1, power⟩
  match roundsTo mantissa exponent low.toRat, roundsTo mantissa exponent high.toRat with
  | false, false => none
  | true, false => some low
  | false, true => some high
  | true, true =>
      let middle := low.toRat + high.toRat
      if 2 * q < middle then some low
      else if middle < 2 * q then some high
      else if low.digits % 2 = 0 then some low else some high

def decimalSize (mantissa : Nat) (exponent : Int) : Int :=
  let estimate := (((mantissa.log2 : Int) + exponent) * 30103).fdiv 100000
  (([estimate - 1, estimate, estimate + 1].find? fun power =>
    decide (magnitude mantissa exponent < (10 : Rat) ^ power))).getD (estimate + 2)

def exactDecimal (mantissa : Nat) (exponent : Int) : Decimal :=
  ⟨(mantissa <<< exponent.toNat) * Nat.pow 5 (-exponent).toNat, min exponent 0⟩

def shortest (mantissa : Nat) (exponent : Int) : Decimal :=
  let size := decimalSize mantissa exponent
  ((List.range 17).findSome? fun n =>
    neighbour? mantissa exponent (size - (n + 1 : Nat))).getD (exactDecimal mantissa exponent)

def significant (decimal : Decimal) : List Char × Int :=
  let digits := Nat.toDigits 10 decimal.digits
  ((digits.reverse.dropWhile (· == '0')).reverse, decimal.power + digits.length - 1)

def zeros (n : Int) : List Char :=
  List.replicate n.toNat '0'

def positional (digits : List Char) (leading : Int) : List Char :=
  let whole := leading.toNat + 1
  if leading < 0 then '0' :: '.' :: zeros (-leading - 1) ++ digits
  else if digits.length ≤ whole then
    digits ++ List.replicate (whole - digits.length) '0' ++ ['.', '0']
  else digits.take whole ++ '.' :: digits.drop whole

def scientific (digits : List Char) (leading : Int) : List Char :=
  let size := Nat.toDigits 10 leading.natAbs
  digits.take 1 ++ (if digits.length ≤ 1 then [] else '.' :: digits.drop 1)
    ++ ['e', if leading < 0 then '-' else '+'] ++ zeros (2 - size.length) ++ size

def layout (decimal : Decimal) : List Char :=
  let parts := significant decimal
  if -4 ≤ parts.2 ∧ parts.2 < 16 then positional parts.1 parts.2
  else scientific parts.1 parts.2

def text : Binary64 → String
  | .nan => "nan"
  | .infinite negative => if negative then "-inf" else "inf"
  | .finite negative mantissa exponent =>
      (if negative then "-" else "") ++
        if mantissa = 0 then "0.0" else String.ofList (layout (shortest mantissa exponent))

end EasyConnect.Binary64
