import EasyConnect.Record.Assignment
import EasyConnect.Record.Mark
import EasyConnect.Record.Validation
import EasyConnect.Value.Equality
import EasyConnect.Value.Plain

namespace EasyConnect

/-! Records that callers keep and put marks on.  Most marks show nowhere.  One replaces the
members of the record by others that nobody has checked; some are compared along with the
members, and some get in the way of showing, comparing or marking the record. -/

/-- The members of a kept record: those it was built of, or what they were replaced by. -/
inductive Contents
  | checked (record : Record)
  | unchecked (members : Members)

def Record.listNames : List String :=
  ["dpp_failure_code", "dpp_configurator_success_code", "dpp_operation_time"]

def Record.fieldNames : List String :=
  Counter.all.map Counter.name ++ Record.listNames

namespace Contents

def equals : Contents → Contents → Bool
  | .checked first, .checked second => decide (first = second)
  | .unchecked first, .unchecked second =>
      Record.fieldNames.all fun name =>
        Value.equalOptional (first.lookup name) (second.lookup name)
  | _, _ => false

end Contents

/-- A record with marks, the latest first.  Two marks have places of their own. -/
structure KeptRecord where
  contents : Contents
  marks : Members
  secret : Value
  extra : Value

/-- What is seen of a kept record.  Unchecked lists are seen only when they are empty. -/
inductive KeptView
  | checked (record : Record)
  | unchecked (members counters : Members)

def Members.counterLines (counters : Members) : List String :=
  Record.header ::
    (counters.map (fun (name, value) => name ++ "=" ++ value.shown) ++ [Record.footer])

namespace KeptRecord

def ofRecord (record : Record) : KeptRecord where
  contents := .checked record
  marks := []
  secret := .null
  extra := .null

/-- Marks are put on by two parts of the record that a mark may itself take the place of. -/
def writable (kept : KeptRecord) (name : String) : Except MarkFault Unit := do
  match kept.marks.lookup "__pydantic_setattr_handlers__" with
  | none => pure ()
  | some (.object handlers) =>
      match handlers.lookup name with
      | none | some .null => pure ()
      | some handler => throw (.notCallable handler.kind)
  | some value => throw (.noAttribute value.kind "get")
  match kept.marks.lookup "_setattr_handler" with
  | none => pure ()
  | some value => throw (.notCallable value.kind)

def put (kept : KeptRecord) (name : String) (value : Value) : KeptRecord :=
  if name = "__pydantic_private__" then { kept with secret := value }
  else if name = "__pydantic_extra__" then { kept with extra := value }
  else if name = "__pydantic_fields_set__" then kept
  else
    match name, value with
    | "__dict__", .object members =>
        { kept with contents := .unchecked members, marks := members }
    | name, value => { kept with marks := (name, value) :: kept.marks }

inductive Refusal
  | blocked (fault : MarkFault)
  | refused (fault : AssignmentFault)

def assign (kept : KeptRecord) (name : String) (value : Value) :
    Except Refusal KeptRecord :=
  match kept.writable name with
  | .error fault => .error (.blocked fault)
  | .ok () =>
      match Model.record.assign name value with
      | .error fault => .error (.refused fault)
      | .ok () => .ok (kept.put name value)

def secretMember? (kept : KeptRecord) (name : String) : Except MarkFault (Option Value) := do
  match kept.marks.lookup "__private_attributes__" with
  | none => return none
  | some listed =>
      if ← listed.holds name then
        let _ ← listed.item name
        match kept.secret.item name with
        | .ok value => return some value
        | .error (.noKey name) => throw (.noAttribute Model.record.title name)
        | .error fault => throw fault
      else return none

def extraMember? (kept : KeptRecord) (name : String) : Except MarkFault (Option Value) := do
  match kept.extra.something? with
  | none => return none
  | some extra => if ← extra.holds name then return some (← extra.item name) else return none

/-- A member by name.  One that is missing may be in the secret, or else among the extra. -/
def member (kept : KeptRecord) (members : Members) (name : String) :
    Except MarkFault Value := do
  match members.lookup name with
  | some value => return value
  | none =>
      match ← kept.secretMember? name with
      | some value => return value
      | none =>
          match ← kept.extraMember? name with
          | some value => return value
          | none => throw (.noAttribute Model.record.title name)

def noEntries (kept : KeptRecord) (members : Members) (name wanted : String) :
    Except MarkFault Unit := do
  let value ← kept.member members name
  match value.itemKinds? with
  | none => throw (.notIterable value.kind)
  | some [] => pure ()
  | some (kind :: _) => throw (.noAttribute kind wanted)

def serializable (kept : KeptRecord) : Except MarkFault Unit :=
  match kept.marks.lookup "__pydantic_serializer__" with
  | none => .ok ()
  | some value => .error (.noAttribute value.kind "to_python")

def callable (kept : KeptRecord) (name : String) : Except MarkFault Unit :=
  match kept.marks.lookup name with
  | none => .ok ()
  | some value => .error (.notCallable value.kind)

def plainMembers (members : Members) : Except ExportFault Members :=
  (members.filter fun (name, _) => name ∈ Record.fieldNames).mapM fun (name, value) => do
    let value ←
      if name ∈ Record.listNames then value.plain Value.exportDepth else value.plainCounter
    return (name, value)

inductive ViewFault
  | marked (fault : MarkFault)
  | unexported (fault : ExportFault)

def view (kept : KeptRecord) : Except ViewFault KeptView := do
  marked do
    kept.callable "to_dict"
    kept.callable "model_dump"
    kept.serializable
  match kept.contents with
  | .checked record => return .checked record
  | .unchecked members =>
      let plain ← (plainMembers members).mapError ViewFault.unexported
      let counters ← marked do
        kept.callable "counters"
        let counters ← Counter.all.mapM fun counter => do
          return (counter.name, ← kept.member members counter.name)
        kept.callable "failure_counts"
        kept.noEntries members "dpp_failure_code" "dpp_status_type"
        kept.callable "success_counts"
        kept.noEntries members "dpp_configurator_success_code" "dpp_status_type"
        kept.noEntries members "dpp_operation_time" "label"
        kept.callable "dump_lines"
        return counters
      return .unchecked plain counters
where
  marked {α : Type} (look : Except MarkFault α) : Except ViewFault α :=
    look.mapError .marked

def origin (kept : KeptRecord) : Except MarkFault (Option Value) :=
  match kept.marks.lookup "__pydantic_generic_metadata__" with
  | none => .ok none
  | some value => (value.item "origin").map Value.something?

/-- Records without an origin are of one origin; others are if their origins are the very same. -/
def sameOrigin : Option Value → Option Value → Bool
  | some first, some second => first.coincides second
  | none, none => true
  | _, _ => false

def equals (first second : KeptRecord) : Except MarkFault Bool := do
  let origin ← first.origin
  let other ← second.origin
  return sameOrigin origin other && first.secret.equals second.secret &&
    Value.equalOptional first.extra.something? second.extra.something? &&
    first.contents.equals second.contents

/-- Whether the record equals itself: a mark that is no number's equal does not. -/
def equalsItself (kept : KeptRecord) : Except MarkFault Bool := do
  let _ ← kept.origin
  return kept.secret.equalsItself && kept.extra.equalsItself

@[simp] theorem view_ofRecord (record : Record) :
    (ofRecord record).view = .ok (.checked record) := rfl

@[simp] theorem equals_ofRecord (first second : Record) :
    (ofRecord first).equals (ofRecord second) = .ok (decide (first = second)) := rfl

end KeptRecord

end EasyConnect
