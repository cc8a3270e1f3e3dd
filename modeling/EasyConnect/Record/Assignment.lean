import EasyConnect.Record.Defect
import EasyConnect.Value

namespace EasyConnect

/-! Assignments to finished entries and records.  Members never change.  A name that begins with
an underscore is a mark of the caller's own; five such names are taken. -/

inductive AssignmentFault
  | frozen (model : Model) (name : String)
  | notMembers (kind : String)
  | notModel (kind : String)
  | readOnly (model : Model) (name : String)
  | computed (model : Model) (name : String)

namespace AssignmentFault

def message : AssignmentFault → String
  | .frozen _ _ => DefectKind.frozen.message
  | .notMembers kind => "__dict__ must be set to a dictionary, not a '" ++ kind ++ "'"
  | .notModel kind => "__class__ must be set to a class, not '" ++ kind ++ "' object"
  | .readOnly model name =>
      "attribute '" ++ name ++ "' of '" ++ model.title ++ "' objects is not writable"
  | .computed model name =>
      "property '" ++ name ++ "' of '" ++ model.title ++ "' object has no setter"

end AssignmentFault

def isMark (name : String) : Bool :=
  name.toList.head? == some '_'

def Model.assign (model : Model) (name : String) (value : Value) :
    Except AssignmentFault Unit :=
  if !isMark name then .error (.frozen model name)
  else if name = "__class__" then .error (.notModel value.kind)
  else if name = "__weakref__" then .error (.readOnly model name)
  else if name = "__fields__" ∨ name = "__fields_set__" then .error (.computed model name)
  else if name = "__dict__" then
    match value with
    | .object _ => .ok ()
    | other => .error (.notMembers other.kind)
  else .ok ()

end EasyConnect
