import EasyConnect.Text.Printable

namespace EasyConnect.Text

/-! Quoted text shows one value on one line: between quote marks, with an escape for the mark,
the backslash and whatever is not printable. -/

def hexDigits : Nat → Nat → List Char
  | 0, _ => []
  | width + 1, n => hexDigits width (n / 16) ++ [Nat.digitChar (n % 16)]

/-- The double mark is taken only for a text that holds the single one and not the double. -/
def quoteMark (text : List Char) : Char :=
  if text.contains '\x27' && !text.contains '\x22' then '\x22' else '\x27'

def escapeOf? (mark c : Char) : Option (List Char) :=
  if c = mark || c = '\x5c' then some ['\x5c', c]
  else if c = '\n' then some ['\x5c', 'n']
  else if c = '\r' then some ['\x5c', 'r']
  else if c = '\t' then some ['\x5c', 't']
  else none

def codePointEscape (point : Nat) : List Char :=
  if point < 0x100 then '\x5c' :: 'x' :: hexDigits 2 point
  else if point < 0x10000 then '\x5c' :: 'u' :: hexDigits 4 point
  else '\x5c' :: 'U' :: hexDigits 8 point

def quotedChar (mark c : Char) : List Char :=
  match escapeOf? mark c with
  | some escape => escape
  | none => if isPrintable c then [c] else codePointEscape c.toNat

def quoted (text : List Char) : List Char :=
  let mark := quoteMark text
  mark :: (text.flatMap (quotedChar mark) ++ [mark])

def quotedByte (mark : Char) (byte : UInt8) : List Char :=
  let c := Char.ofNat byte.toNat
  match escapeOf? mark c with
  | some escape => escape
  | none =>
      if 0x20 ≤ byte && byte < 0x7F then [c]
      else '\x5c' :: 'x' :: hexDigits 2 byte.toNat

def quotedBytes (bytes : List UInt8) : List Char :=
  let mark := quoteMark (bytes.map fun byte => Char.ofNat byte.toNat)
  'b' :: mark :: (bytes.flatMap (quotedByte mark) ++ [mark])

end EasyConnect.Text
