import EasyConnect.Binary64.Shortest
import EasyConnect.Numeral
import EasyConnect.Status

namespace EasyConnect

/-! Numbers as callers hand them in: integers, truth values, enumeration members and binary64
numbers, all compared by their place on one line. -/

inductive Member
  | success (code : SuccessCode)
  | failure (code : FailureCode)
  | statusType (type : StatusType)
  deriving DecidableEq

namespace Member

def code : Member → Int
  | .success code => code.code
  | .failure code => code.code
  | .statusType type => type.code

def name : Member → String
  | .success code => code.name
  | .failure code => code.name
  | .statusType type => type.name

def enumeration : Member → String
  | .success _ => "EasyConnectSuccessStatus"
  | .failure _ => "EasyConnectFailureStatus"
  | .statusType _ => "DppStatusType"

end Member

inductive Number
  | int (n : Int)
  | bool (b : Bool)
  | member (m : Member)
  | float (x : Binary64)
  deriving DecidableEq

def Place.integer? : Place → Option Int
  | .point q => if q.den = 1 then some q.num else none
  | _ => none

def Place.truncated? : Place → Option Int
  | .point q => some (Binary64.truncated q)
  | _ => none

namespace Number

def place? : Number → Option Place
  | .int n => some (.ofInt n)
  | .bool b => some (.ofInt b.toInt)
  | .member m => some (.ofInt m.code)
  | .float x => x.place?

def integer? (number : Number) : Option Int :=
  number.place?.bind Place.integer?

def truncated? (number : Number) : Option Int :=
  number.place?.bind Place.truncated?

/-- A number without a place is neither below nor above any other. -/
def lt (first second : Number) : Bool :=
  match first.place?, second.place? with
  | some p, some q => p.lt q
  | _, _ => false

def le (first second : Number) : Bool :=
  match first.place?, second.place? with
  | some p, some q => p.le q
  | _, _ => false

def text : Number → String
  | .int n => Numeral.decimal n
  | .bool b => if b then "True" else "False"
  | .member m => Numeral.decimal m.code
  | .float x => x.text

def written : Number → String
  | .member m =>
      "<" ++ m.enumeration ++ "." ++ m.name ++ ": " ++ Numeral.decimal m.code ++ ">"
  | number => number.text

def kind : Number → String
  | .int _ => "int"
  | .bool _ => "bool"
  | .member m => m.enumeration
  | .float _ => "float"

@[simp] theorem place?_int (n : Int) : (int n).place? = some (.ofInt n) := rfl

@[simp] theorem lt_int_int (m n : Int) : (int m).lt (int n) = decide (m < n) := by
  simp [lt]

@[simp] theorem le_int_int (m n : Int) : (int m).le (int n) = decide (m ≤ n) := by
  simp [le]

@[simp] theorem truncated?_int (n : Int) : (int n).truncated? = some n := by
  simp [truncated?, Place.ofInt, Place.truncated?, Binary64.truncated]

end Number

end EasyConnect
