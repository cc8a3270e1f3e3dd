import EasyConnect.Number
import EasyConnect.Text.Quoted

namespace EasyConnect

/-! Values that callers hand in where a code, a duration, a boundary or a record's member is
expected.  Any kind of value may come; each use says what it makes of it. -/

inductive Value
  | null
  | number (n : Number)
  | text (s : String)
  | bytes (b : List UInt8)
  | list (items : List Value)
  | object (members : List (String × Value))

namespace Value

abbrev int (n : Int) : Value :=
  .number (.int n)

def kind : Value → String
  | .null => "NoneType"
  | .number n => n.kind
  | .text _ => "str"
  | .bytes _ => "bytes"
  | .list _ => "list"
  | .object _ => "dict"

def quotedText (s : String) : String :=
  String.ofList (Text.quoted s.toList)

mutual

def written : Value → String
  | .null => "None"
  | .number n => n.written
  | .text s => quotedText s
  | .bytes b => String.ofList (Text.quotedBytes b)
  | .list items => "[" ++ ", ".intercalate (writtenItems items) ++ "]"
  | .object members => "\x7b" ++ ", ".intercalate (writtenMembers members) ++ "\x7d"

def writtenItems : List Value → List String
  | [] => []
  | item :: rest => written item :: writtenItems rest

def writtenMembers : List (String × Value) → List String
  | [] => []
  | (name, value) :: rest =>
      (quotedText name ++ ": " ++ written value) :: writtenMembers rest

end

def integer? : Value → Option Int
  | .number n => n.integer?
  | _ => none

def asciiText? (bytes : List UInt8) : Option (List Char) :=
  bytes.mapM fun byte => if byte < 0x80 then some (Char.ofNat byte.toNat) else none

/-- The integer that the value converts to: numbers lose their fraction, texts and ASCII bytes
are read as numerals. -/
def toInt? : Value → Option Int
  | .number n => n.truncated?
  | .text s => Numeral.read? s.toList
  | .bytes b => (asciiText? b).bind Numeral.read?
  | _ => none

end Value

end EasyConnect
