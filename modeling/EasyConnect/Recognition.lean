import EasyConnect.Value

namespace EasyConnect

/-! Recognises callback codes among the values that callers hand in. -/

/-- Lists and objects are of no kind that a code could be looked up by. -/
structure UnfitKey where
  kind : String

def UnfitKey.message (key : UnfitKey) : String :=
  "unhashable type: '" ++ key.kind ++ "'"

namespace Value

def codeKey : Value → Except UnfitKey (Option Int)
  | .list items => .error ⟨(Value.list items).kind⟩
  | .object members => .error ⟨(Value.object members).kind⟩
  | value => .ok value.integer?

end Value

def SuccessCode.ofValue? (value : Value) : Except UnfitKey (Option SuccessCode) :=
  value.codeKey.map fun key => key.bind SuccessCode.ofCode?

def FailureCode.ofValue? (value : Value) : Except UnfitKey (Option FailureCode) :=
  value.codeKey.map fun key => key.bind FailureCode.ofCode?

end EasyConnect
