import EasyConnect.Report.Format
import EasyConnect.Value

namespace EasyConnect

/-! The enumerations that callers may look members up in, by value or by name. -/

inductive Entry
  | member (m : Member)
  | format (f : Format)

namespace Entry

def name : Entry → String
  | .member m => m.name
  | .format f => f.name

def value : Entry → Value
  | .member m => .int m.code
  | .format f => .text f.keyword

def text : Entry → String
  | .member m => Numeral.decimal m.code
  | .format f => f.keyword

/-- Codes are found by any number that equals them, keywords by the same text only. -/
def isFoundBy (value : Value) : Entry → Bool
  | .member m => value.integer? == some m.code
  | .format f =>
      match value with
      | .text s => s == f.keyword
      | _ => false

end Entry

inductive Catalogue
  | successCodes
  | failureCodes
  | statusTypes
  | formats

namespace Catalogue

def title : Catalogue → String
  | .successCodes => "EasyConnectSuccessStatus"
  | .failureCodes => "EasyConnectFailureStatus"
  | .statusTypes => "DppStatusType"
  | .formats => "ReportFormat"

def entries : Catalogue → List Entry
  | .successCodes => SuccessCode.all.map fun code => .member (.success code)
  | .failureCodes => FailureCode.all.map fun code => .member (.failure code)
  | .statusTypes => StatusType.all.map fun type => .member (.statusType type)
  | .formats => Format.all.map .format

def written (catalogue : Catalogue) (entry : Entry) : String :=
  "<" ++ catalogue.title ++ "." ++ entry.name ++ ": " ++ entry.value.written ++ ">"

inductive LookupFault
  | noSuchValue (catalogue : Catalogue) (value : Value)
  | noSuchName (name : String)

def LookupFault.message : LookupFault → String
  | .noSuchValue catalogue value => value.written ++ " is not a valid " ++ catalogue.title
  | .noSuchName name => Value.quotedText name

def ofValue (catalogue : Catalogue) (value : Value) : Except LookupFault Entry :=
  match catalogue.entries.find? fun entry => entry.isFoundBy value with
  | some entry => .ok entry
  | none => .error (.noSuchValue catalogue value)

def ofName (catalogue : Catalogue) (name : String) : Except LookupFault Entry :=
  match catalogue.entries.find? fun entry => entry.name == name with
  | some entry => .ok entry
  | none => .error (.noSuchName name)

end Catalogue

end EasyConnect
