namespace EasyConnect

/-! Defects of record members: what is wrong and where. -/

inductive Model
  | statusCount
  | bucketCount
  | record
  deriving DecidableEq

def Model.title : Model → String
  | .statusCount => "DppStatusBucket"
  | .bucketCount => "HistogramBucketInt32"
  | .record => "DppLogSnapshot"

inductive DefectKind
  | missing
  | notInteger
  | unreadableInteger
  | oversizedInteger
  | fractional
  | notFinite
  | negative
  | unknownStatusType
  | notList
  | notMembers (model : Model)
  | frozen
  deriving DecidableEq

namespace DefectKind

def label : DefectKind → String
  | .missing => "missing"
  | .notInteger => "int_type"
  | .unreadableInteger => "int_parsing"
  | .oversizedInteger => "int_parsing_size"
  | .fractional => "int_from_float"
  | .notFinite => "finite_number"
  | .negative => "greater_than_equal"
  | .unknownStatusType => "enum"
  | .notList => "tuple_type"
  | .notMembers _ => "model_type"
  | .frozen => "frozen_instance"

def message : DefectKind → String
  | .missing => "Field required"
  | .notInteger => "Input should be a valid integer"
  | .unreadableInteger =>
      "Input should be a valid integer, unable to parse string as an integer"
  | .oversizedInteger =>
      "Unable to parse input string as an integer, exceeded maximum size"
  | .fractional =>
      "Input should be a valid integer, got a number with a fractional part"
  | .notFinite => "Input should be a finite number"
  | .negative => "Input should be greater than or equal to 0"
  | .unknownStatusType =>
      "Input should be 0, 1, 2, 3, 4, 5, 6, 7, 8, 9, 10, 11, 12, 13, 14, 15 or 16"
  | .notList => "Input should be a valid tuple"
  | .notMembers model =>
      "Input should be a valid dictionary or instance of " ++ model.title
  | .frozen => "Instance is frozen"

end DefectKind

inductive PathStep
  | member (name : String)
  | item (index : Nat)
  deriving DecidableEq

structure Defect where
  kind : DefectKind
  path : List PathStep
  deriving DecidableEq

namespace Defect

def ofMember (kind : DefectKind) (name : String) : Defect :=
  ⟨kind, [.member name]⟩

def below (step : PathStep) (defect : Defect) : Defect :=
  ⟨defect.kind, step :: defect.path⟩

end Defect

/-- The accepted value, or every defect in order. -/
inductive Validated (α : Type)
  | accepted (a : α)
  | refused (first : Defect) (rest : List Defect)
  deriving DecidableEq

namespace Validated

def defects : Validated α → List Defect
  | .accepted _ => []
  | .refused first rest => first :: rest

def map (f : α → β) : Validated α → Validated β
  | .accepted a => .accepted (f a)
  | .refused first rest => .refused first rest

def and : Validated α → Validated β → Validated (α × β)
  | .accepted a, .accepted b => .accepted (a, b)
  | .accepted _, .refused first rest => .refused first rest
  | .refused first rest, other => .refused first (rest ++ other.defects)

def below (step : PathStep) : Validated α → Validated α
  | .accepted a => .accepted a
  | .refused first rest => .refused (first.below step) (rest.map (Defect.below step))

def ofMember (name : String) : Except DefectKind α → Validated α
  | .ok a => .accepted a
  | .error kind => .refused (.ofMember kind name) []

def items (check : α → Validated β) : Nat → List α → Validated (List β)
  | _, [] => .accepted []
  | index, item :: rest =>
      (((check item).below (.item index)).and (items check (index + 1) rest)).map
        fun (first, later) => first :: later

def vector : (n : Nat) → (Fin n → Validated α) → Validated (Vector α n)
  | 0, _ => .accepted #v[]
  | n + 1, check =>
      ((vector n fun i => check i.castSucc).and (check (Fin.last n))).map
        fun (init, last) => init.push last

@[simp] theorem defects_accepted (a : α) : (accepted a).defects = [] := rfl

@[simp] theorem defects_refused (first : Defect) (rest : List Defect) :
    (refused first rest : Validated α).defects = first :: rest := rfl

@[simp] theorem defects_map (f : α → β) (checked : Validated α) :
    (checked.map f).defects = checked.defects := by
  cases checked <;> rfl

@[simp] theorem defects_and (first : Validated α) (second : Validated β) :
    (first.and second).defects = first.defects ++ second.defects := by
  cases first <;> cases second <;> simp [and]

@[simp] theorem defects_below (step : PathStep) (checked : Validated α) :
    (checked.below step).defects = checked.defects.map (Defect.below step) := by
  cases checked <;> rfl

theorem defects_eq_nil_iff (checked : Validated α) :
    checked.defects = [] ↔ ∃ a, checked = .accepted a := by
  cases checked <;> simp

theorem map_eq_accepted {f : α → β} {checked : Validated α} {b : β}
    (h : checked.map f = .accepted b) : ∃ a, checked = .accepted a ∧ f a = b := by
  cases checked with
  | accepted a =>
      cases h
      exact ⟨a, rfl, rfl⟩
  | refused first rest => cases h

theorem and_eq_accepted {first : Validated α} {second : Validated β} {a : α} {b : β}
    (h : first.and second = .accepted (a, b)) :
    first = .accepted a ∧ second = .accepted b := by
  cases first with
  | accepted a =>
      cases second with
      | accepted b =>
          cases h
          exact ⟨rfl, rfl⟩
      | refused first rest => cases h
  | refused first rest => cases h

end Validated

end EasyConnect
