import EasyConnect.Text.Blank
import EasyConnect.Text.DecimalDigit

namespace EasyConnect.Numeral

open EasyConnect.Text

/-! Integer numerals: a sign, then digits with single underscores between them. -/

/-- The most digits that a numeral may have, leading zeros included. -/
def maxDigits : Nat := 4300

/-- Reads the rest of a row of digits.  `afterDigit` says that the character before was a digit:
only then may an underscore follow or the row end. -/
def digits? (digit? : Char → Option Nat) : (afterDigit : Bool) → List Char → Option (List Nat)
  | afterDigit, [] => if afterDigit then some [] else none
  | afterDigit, c :: rest =>
      if afterDigit && c == '_' then digits? digit? false rest
      else do
        let digit ← digit? c
        let digits ← digits? digit? true rest
        return digit :: digits

def value (digits : List Nat) : Nat :=
  digits.foldl (fun n digit => 10 * n + digit) 0

def signed? (unsigned? : List Char → Option Nat) : List Char → Option Int
  | '-' :: rest => (unsigned? rest).map fun n => -(n : Int)
  | '+' :: rest => (unsigned? rest).map fun n => (n : Int)
  | text => (unsigned? text).map fun n => (n : Int)

def unsigned? (text : List Char) : Option Nat := do
  let digits ← digits? decimalDigit? false text
  if digits.length ≤ maxDigits then return value digits else none

def read? (text : List Char) : Option Int :=
  signed? unsigned? (trim isBlank text)

def decimal (n : Int) : String :=
  if n < 0 then "-" ++ n.natAbs.repr else n.natAbs.repr

def isWritable (n : Int) : Bool :=
  decide (n.natAbs < Nat.pow 10 maxDigits)

def unwritableMessage : String :=
  "Exceeds the limit (" ++ maxDigits.repr ++ " digits) for integer string conversion; " ++
    "use sys.set_int_max_str_digits() to increase the limit"

end EasyConnect.Numeral
