import EasyConnect.Numeral

namespace EasyConnect.Numeral

open EasyConnect.Text

/-! Padded numerals: integers as they are typed in, with blanks around them, zeros in front and a
point with zeros behind.  Among the zeros in front underscores do not matter; behind them they
stand singly between digits.  A minus sign stands before the zeros in front or behind them. -/

/-- What stands behind zeros and underscores, of which `last` is the last; that one is kept where
no digit follows. -/
def behindZeros? (last : Char) : List Char → Option (List Char)
  | [] => some [last]
  | c :: rest =>
      if c = '0' ∨ c = '_' then behindZeros? c rest
      else if c = '.' then some (last :: c :: rest)
      else if c = '-' ∨ c.isDigit then some (c :: rest)
      else none

def withoutZeros? : List Char → Option (List Char)
  | '0' :: rest => behindZeros? '0' rest
  | c :: rest => if c.isDigit then some (c :: rest) else none
  | [] => none

def wholePart? (text : List Char) : Option (List Char) :=
  match text.dropWhile (· != '.') with
  | [] => some text
  | _ :: zeros =>
      if !zeros.isEmpty && zeros.all (· == '0') then some (text.takeWhile (· != '.'))
      else none

def unpadded? (text : List Char) : Option (List Char) :=
  (withoutZeros? text).bind wholePart?

def plain? (text : List Char) : Option Nat := do
  let digits ← digits? asciiDigit? false text
  if maxDigits < digits.length then none
  else if 1 < digits.length ∧ digits.head? = some 0 then none
  else return value digits

def signedPlain? : List Char → Option Int
  | '-' :: '_' :: text => (plain? text).map fun n => -(n : Int)
  | '-' :: text => (plain? text).map fun n => -(n : Int)
  | text => (plain? text).map fun n => (n : Int)

def padded? (text : List Char) : Option Int :=
  match trim isBlank text with
  | '-' :: rest => ((unpadded? rest).bind plain?).map fun n => -(n : Int)
  | '+' :: rest => (unpadded? rest).bind signedPlain?
  | rest => (unpadded? rest).bind signedPlain?

/-- The text begins as a numeral without padding and goes on for more digits than one may have. -/
def beginsOversized (text : List Char) : Bool :=
  let unsigned := if text.head? == some '-' then text.tail else text
  unsigned.head? != some '0' &&
    decide (maxDigits < (unsigned.takeWhile Char.isDigit).length)

end EasyConnect.Numeral
