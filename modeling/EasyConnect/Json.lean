namespace EasyConnect

/-! JSON values with integers for numbers; the members of an object keep their order. -/

inductive Json
  | null
  | bool (b : Bool)
  | int (n : Int)
  | text (s : String)
  | list (items : List Json)
  | object (members : List (String × Json))

namespace Json

def member? (name : String) : Json → Option Json
  | .object members => members.lookup name
  | _ => none

end Json

end EasyConnect
