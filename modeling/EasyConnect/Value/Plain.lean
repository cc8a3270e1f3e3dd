import EasyConnect.Text.Utf8
import EasyConnect.Value

namespace EasyConnect

/-! Values as they are exported. -/

inductive ExportFault
  | undecodable (place : Text.Misencoding)
  | tooDeep

namespace ExportFault

def message : ExportFault → String
  | .undecodable place =>
      let bytes :=
        if place.stop = place.start + 1 then
          "byte 0x" ++ String.ofList (Text.hexDigits 2 place.first.toNat) ++ " in position " ++
            Numeral.decimal place.start
        else
          "bytes in position " ++ Numeral.decimal place.start ++ "-" ++
            Numeral.decimal (place.stop - 1 : Nat)
      "'utf-8' codec can't decode " ++ bytes ++ ": invalid utf-8"
  | .tooDeep => "Maximum serialization depth exceeded"

end ExportFault

namespace Value

def shown : Value → String
  | .number n => n.text
  | .text s => s
  | value => value.written

def exportDepth : Nat :=
  255

mutual

/-- The value with nothing but plain data in it, if it is no deeper than `room`: members of
enumerations become the codes inside them, bytes become the text that they encode, and null takes
the place of a number that is infinite or undefined. -/
def plain : Nat → Value → Except ExportFault Value
  | 0, _ => .error .tooDeep
  | room + 1, value =>
      match value with
      | .number (.member m) => if room = 0 then .error .tooDeep else .ok (.int m.code)
      | .number (.float x) => .ok (if x.toRat?.isSome then value else .null)
      | .bytes b => ((Text.decodeUtf8 b).map .text).mapError .undecodable
      | .list items => (plainItems room items).map .list
      | .object members => (plainMembers room members).map .object
      | value => .ok value

def plainItems : Nat → List Value → Except ExportFault (List Value)
  | _, [] => .ok []
  | room, item :: rest => do
      let item ← plain room item
      let rest ← plainItems room rest
      return item :: rest

def plainMembers :
    Nat → List (String × Value) → Except ExportFault (List (String × Value))
  | _, [] => .ok []
  | room, (name, value) :: rest => do
      let value ← plain room value
      let rest ← plainMembers room rest
      return (name, value) :: rest

end

def plainCounter : Value → Except ExportFault Value
  | .number (.bool b) => .ok (.int b.toInt)
  | .number (.member m) => .ok (.int m.code)
  | value => value.plain exportDepth

end Value

end EasyConnect
