import EasyConnect.Numeral.Padded
import EasyConnect.Record
import EasyConnect.Record.Defect
import EasyConnect.Value
import EasyConnect.Word

namespace EasyConnect

/-! Builds records from named values.  Every member is checked on its own, in the order of the
fields; members of other names are ignored. -/

abbrev Members := List (String × Value)

def readIntegerText (text : List Char) : Except DefectKind Int :=
  if Numeral.beginsOversized text then .error .oversizedInteger
  else
    match Numeral.padded? text with
    | some n => .ok n
    | none => .error .unreadableInteger

/-- Reads an integer member given as a binary64 number, which must be whole and lie strictly
between the ends of a signed word. -/
def readIntegerFloat (x : Binary64) : Except DefectKind Int :=
  match x.toRat? with
  | none => .error .notFinite
  | some q =>
      if q.den ≠ 1 then .error .fractional
      else if -wordLimit < q.num ∧ q.num < wordLimit then .ok q.num
      else .error .oversizedInteger

def readInteger : Value → Except DefectKind Int
  | .number (.int n) => .ok n
  | .number (.bool b) => .ok b.toInt
  | .number (.member m) => .ok m.code
  | .number (.float x) => readIntegerFloat x
  | .text s => readIntegerText s.toList
  | .bytes b =>
      match String.fromUTF8? ⟨b.toArray⟩ with
      | some s => readIntegerText s.toList
      | none => .error .unreadableInteger
  | _ => .error .notInteger

def readCount (value : Value) : Except DefectKind Nat :=
  match readInteger value with
  | .ok n => if n < 0 then .error .negative else .ok n.toNat
  | .error kind => .error kind

def readStop : Value → Except DefectKind (Option Int)
  | .null => .ok none
  | value => (readInteger value).map some

def readStatusType (value : Value) : Except DefectKind StatusType :=
  match readInteger value with
  | .error _ => .error .unknownStatusType
  | .ok n =>
      if fitsWord n then
        match StatusType.ofCode? n with
        | some type => .ok type
        | none => .error .unknownStatusType
      else .error .oversizedInteger

namespace Members

def required (members : Members) (name : String) (read : Value → Except DefectKind α) :
    Validated α :=
  match members.lookup name with
  | none => .refused (.ofMember .missing name) []
  | some value => .ofMember name (read value)

def optional (members : Members) (name : String) (absent : α)
    (read : Value → Except DefectKind α) : Validated α :=
  match members.lookup name with
  | none => .accepted absent
  | some value => .ofMember name (read value)

def item (model : Model) (check : Members → Validated α) : Value → Validated α
  | .object members => check members
  | _ => .refused ⟨.notMembers model, []⟩ []

def list (members : Members) (name : String) (model : Model)
    (check : Members → Validated α) : Validated (List α) :=
  match members.lookup name with
  | none => .accepted []
  | some (.list items) =>
      (Validated.items (item model check) 0 items).below (.member name)
  | some _ => .refused (.ofMember .notList name) []

end Members

def StatusCount.ofMembers (members : Members) : Validated StatusCount :=
  ((members.required "dpp_status_type" readStatusType).and
    (members.required "count" readCount)).map fun (type, count) => ⟨type, count⟩

def BucketCount.ofMembers (members : Members) : Validated BucketCount :=
  ((members.required "start" readInteger).and
    ((members.optional "end" none readStop).and
      (members.required "count" readCount))).map
    fun (start, stop, count) => ⟨start, stop, count⟩

namespace Record

def countersOf (members : Members) : Validated (Tally Int 8) :=
  (Validated.vector 8 fun i =>
    members.optional (Counter.ofIndex i).name 0 readInteger).map Tally.mk

def ofMembers (members : Members) : Validated Record :=
  ((countersOf members).and
    ((members.list "dpp_failure_code" .statusCount StatusCount.ofMembers).and
      ((members.list "dpp_configurator_success_code" .statusCount StatusCount.ofMembers).and
        (members.list "dpp_operation_time" .bucketCount BucketCount.ofMembers)))).map
    fun (counters, failures, successes, operationTime) =>
      ⟨counters, failures, successes, operationTime⟩

end Record

end EasyConnect
