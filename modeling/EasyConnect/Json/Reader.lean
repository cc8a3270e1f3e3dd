import EasyConnect.Json
import EasyConnect.Numeral

namespace EasyConnect.Json

open EasyConnect.Text

/-! Reads JSON text whose numbers are integers. -/

def isJsonBlank (c : Char) : Bool :=
  c == ' ' || c == '\n' || c == '\r' || c == '\t'

def skipBlanks (source : List Char) : List Char :=
  source.dropWhile isJsonBlank

def hexValue? (c : Char) : Option Nat :=
  if c.isDigit then some (c.toNat - 0x30)
  else if 'a' ≤ c ∧ c ≤ 'f' then some (c.toNat - 0x57)
  else if 'A' ≤ c ∧ c ≤ 'F' then some (c.toNat - 0x37)
  else none

def codeUnit? : List Char → Option (Nat × List Char)
  | a :: b :: c :: d :: rest => do
      let a ← hexValue? a
      let b ← hexValue? b
      let c ← hexValue? c
      let d ← hexValue? d
      return (((a * 16 + b) * 16 + c) * 16 + d, rest)
  | _ => none

def letter? (c : Char) : Option Char :=
  if c = 'n' then some '\n'
  else if c = 'r' then some '\r'
  else if c = 't' then some '\t'
  else if c = 'b' then some '\x08'
  else if c = 'f' then some '\x0c'
  else if c = '\x22' ∨ c = '\x5c' ∨ c = '/' then some c
  else none

/-- Reads what follows the backslash and the letter of a code unit: one unit, or the two of a
pair.  A unit of a pair that stands alone is refused. -/
def escapedPoint? (source : List Char) : Option (Char × List Char) := do
  let (high, rest) ← codeUnit? source
  if high < 0xD800 ∨ 0xE000 ≤ high then return (Char.ofNat high, rest)
  else if high < 0xDC00 then
    match rest with
    | '\x5c' :: 'u' :: second => do
        let (low, rest) ← codeUnit? second
        if 0xDC00 ≤ low ∧ low < 0xE000 then
          return (Char.ofNat (0x10000 + (high - 0xD800) * 0x400 + (low - 0xDC00)), rest)
        else none
    | _ => none
  else none

/-- Reads one character of a string; `none` in the pair stands for the closing mark. -/
def character? : List Char → Option (Option Char × List Char)
  | '\x22' :: rest => some (none, rest)
  | '\x5c' :: 'u' :: rest => (escapedPoint? rest).map fun (c, rest) => (some c, rest)
  | '\x5c' :: c :: rest => (letter? c).map fun c => (some c, rest)
  | c :: rest => if c < ' ' then none else some (some c, rest)
  | [] => none

def characters? : Nat → List Char → Option (List Char × List Char)
  | 0, _ => none
  | fuel + 1, source =>
      match character? source with
      | none => none
      | some (none, rest) => some ([], rest)
      | some (some c, rest) => (characters? fuel rest).map fun (cs, rest) => (c :: cs, rest)

def string? (fuel : Nat) : List Char → Option (String × List Char)
  | '\x22' :: rest => (characters? fuel rest).map fun (cs, rest) => (String.ofList cs, rest)
  | _ => none

def natural? (source : List Char) : Option (Nat × List Char) :=
  let digits := source.takeWhile Char.isDigit
  if digits.isEmpty || (decide (1 < digits.length) && digits.head? == some '0') then none
  else
    some (Numeral.value (digits.map fun c => c.toNat - 0x30), source.dropWhile Char.isDigit)

def integer? : List Char → Option (Int × List Char)
  | '-' :: rest => (natural? rest).map fun (n, rest) => (-(n : Int), rest)
  | source => (natural? source).map fun (n, rest) => ((n : Int), rest)

def name? (fuel : Nat) (source : List Char) : Option (String × List Char) := do
  let (name, rest) ← string? fuel (skipBlanks source)
  match skipBlanks rest with
  | ':' :: rest => return (name, rest)
  | _ => none

mutual

def value? : Nat → List Char → Option (Json × List Char)
  | 0, _ => none
  | fuel + 1, source =>
      match skipBlanks source with
      | 'n' :: 'u' :: 'l' :: 'l' :: rest => some (.null, rest)
      | 't' :: 'r' :: 'u' :: 'e' :: rest => some (.bool true, rest)
      | 'f' :: 'a' :: 'l' :: 's' :: 'e' :: rest => some (.bool false, rest)
      | '[' :: rest =>
          match skipBlanks rest with
          | ']' :: rest => some (.list [], rest)
          | rest => (items? fuel rest).map fun (items, rest) => (.list items, rest)
      | '\x7b' :: rest =>
          match skipBlanks rest with
          | '\x7d' :: rest => some (.object [], rest)
          | rest => (members? fuel rest).map fun (members, rest) => (.object members, rest)
      | '\x22' :: rest => (string? fuel ('\x22' :: rest)).map fun (s, rest) => (.text s, rest)
      | source => (integer? source).map fun (n, rest) => (.int n, rest)

def items? : Nat → List Char → Option (List Json × List Char)
  | 0, _ => none
  | fuel + 1, source =>
      match value? fuel source with
      | none => none
      | some (item, rest) =>
          match skipBlanks rest with
          | ',' :: rest => (items? fuel rest).map fun (items, rest) => (item :: items, rest)
          | ']' :: rest => some ([item], rest)
          | _ => none

def members? : Nat → List Char → Option (List (String × Json) × List Char)
  | 0, _ => none
  | fuel + 1, source =>
      match name? fuel source with
      | none => none
      | some (name, rest) =>
          match value? fuel rest with
          | none => none
          | some (value, rest) =>
              match skipBlanks rest with
              | ',' :: rest =>
                  (members? fuel rest).map fun (members, rest) => ((name, value) :: members, rest)
              | '\x7d' :: rest => some ([(name, value)], rest)
              | _ => none

end

/-- Every step down uses up a character of the text or enters an item right after one, so twice
the length is enough. -/
def read? (source : String) : Option Json :=
  match value? (2 * source.toList.length + 2) source.toList with
  | some (json, rest) => if (skipBlanks rest).isEmpty then some json else none
  | none => none

end EasyConnect.Json
