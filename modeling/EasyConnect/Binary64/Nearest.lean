import EasyConnect.Binary64
import EasyConnect.Numeral

namespace EasyConnect.Binary64

open EasyConnect.Text

/-! The binary64 number nearest to a decimal; of two equally near ones, the even. -/

def roundedQuotient (num den : Nat) : Nat :=
  let quotient := num / den
  let rest := num % den
  if 2 * rest < den then quotient
  else if den < 2 * rest then quotient + 1
  else if quotient % 2 = 0 then quotient else quotient + 1

def scaled (num den : Nat) (exponent : Int) : Nat × Nat :=
  (num <<< (-exponent).toNat, den <<< exponent.toNat)

def bounded (negative : Bool) (mantissa : Nat) (exponent : Int) : Binary64 :=
  if 971 < exponent then .infinite negative else .finite negative mantissa exponent

def ofQuotient (negative : Bool) (num den : Nat) : Binary64 :=
  if num = 0 then .finite negative 0 0
  else
    let low := max ((num.log2 : Int) - (den.log2 : Int) - 53) (-1074)
    let first := scaled num den low
    let exponent := if first.1 / first.2 < mantissaLimit then low else low + 1
    let second := scaled num den exponent
    let mantissa := roundedQuotient second.1 second.2
    if mantissa = mantissaLimit then bounded negative normalMantissa (exponent + 1)
    else bounded negative mantissa exponent

/-- The number nearest to `± digits * 10 ^ power`.  Beyond 10 ^ 310 and below 10 ^ -330 the
result is settled by the number of digits alone. -/
def ofDecimal (negative : Bool) (digits : Nat) (power : Int) : Binary64 :=
  let size := ((Nat.toDigits 10 digits).length : Int) + power
  if digits = 0 then .finite negative 0 0
  else if 310 < size then .infinite negative
  else if size < -330 then .finite negative 0 0
  else ofQuotient negative (digits * Nat.pow 10 power.toNat) (Nat.pow 10 (-power).toNat)

def exponent? : List Char → Option Int
  | [] => some 0
  | _ :: text =>
      Numeral.signed? (fun digits => (Numeral.digits? asciiDigit? false digits).map Numeral.value)
        text

def unsigned? (negative : Bool) (text : List Char) : Option Binary64 :=
  if text = ['n', 'a', 'n'] then some .nan
  else if text = ['i', 'n', 'f'] then some (.infinite negative)
  else do
    let significand := text.takeWhile fun c => c != 'e' && c != 'E'
    let power ← exponent? (text.dropWhile fun c => c != 'e' && c != 'E')
    let whole := significand.takeWhile (· != '.')
    let places := (significand.dropWhile (· != '.')).drop 1
    let digits ← (whole ++ places).mapM asciiDigit?
    if digits.isEmpty then none
    else return ofDecimal negative (Numeral.value digits) (power - places.length)

def read? : List Char → Option Binary64
  | '-' :: text => unsigned? true text
  | '+' :: text => unsigned? false text
  | text => unsigned? false text

end EasyConnect.Binary64
