import EasyConnect.Value

namespace EasyConnect

/-! Marks are values of any kind that stand where a part of a record should, and cannot do what
that part does. -/

inductive MarkFault
  | notCallable (kind : String)
  | notIterable (kind : String)
  | notContainer (kind : String)
  | bytesSearched
  | noAttribute (owner name : String)
  | noItems (kind : String)
  | textIndex
  | itemIndex (items : String)
  | noKey (name : String)

namespace MarkFault

def message : MarkFault → String
  | .notCallable kind => "'" ++ kind ++ "' object is not callable"
  | .notIterable kind => "'" ++ kind ++ "' object is not iterable"
  | .notContainer kind => "argument of type '" ++ kind ++ "' is not iterable"
  | .bytesSearched => "a bytes-like object is required, not 'str'"
  | .noAttribute owner name => "'" ++ owner ++ "' object has no attribute '" ++ name ++ "'"
  | .noItems kind => "'" ++ kind ++ "' object is not subscriptable"
  | .textIndex => "string indices must be integers, not 'str'"
  | .itemIndex items => items ++ " indices must be integers or slices, not str"
  | .noKey name => Value.quotedText name

end MarkFault

namespace Value

def item (name : String) : Value → Except MarkFault Value
  | .object members =>
      match members.lookup name with
      | some value => .ok value
      | none => .error (.noKey name)
  | .text _ => .error .textIndex
  | .list _ => .error (.itemIndex "list")
  | .bytes _ => .error (.itemIndex "byte")
  | value => .error (.noItems value.kind)

def hasPart (part : List Char) : List Char → Bool
  | [] => part.isEmpty
  | c :: rest => part.isPrefixOf (c :: rest) || hasPart part rest

/-- Whether a name is found in the value: objects hold the names of their members, lists their
items, and texts whatever they have as a part. -/
def holds (name : String) : Value → Except MarkFault Bool
  | .object members => .ok (members.lookup name).isSome
  | .list items =>
      .ok (items.any fun
        | .text s => decide (s = name)
        | _ => false)
  | .text s => .ok (hasPart name.toList s.toList)
  | .bytes _ => .error .bytesSearched
  | value => .error (.notContainer value.kind)

def itemKinds? : Value → Option (List String)
  | .text s => some (s.toList.map fun _ => "str")
  | .bytes b => some (b.map fun _ => "int")
  | .list items => some (items.map kind)
  | .object members => some (members.map fun _ => "str")
  | _ => none

end Value

end EasyConnect
