import EasyConnect.Value

namespace EasyConnect

/-! Equality of values: numbers are equal at the same place, whatever their kind, and the members
of an object may stand in any order. -/

/-- A number without a place equals none, itself included. -/
def Number.equals (first second : Number) : Bool :=
  match first.place?, second.place? with
  | some p, some q => decide (p = q)
  | _, _ => false

theorem Number.equals_int_int (m n : Int) : (int m).equals (int n) = decide (m = n) := by
  simp only [equals, place?_int, Place.ofInt, Place.point.injEq, Rat.intCast_inj]

namespace Value

mutual

def equals : Value → Value → Bool
  | .null, .null => true
  | .number m, .number n => m.equals n
  | .text s, .text t => decide (s = t)
  | .bytes b, .bytes c => decide (b = c)
  | .list items, .list others => equalItems items others
  | .object members, .object others =>
      decide (members.length = others.length) && equalMembers members others
  | _, _ => false

def equalItems : List Value → List Value → Bool
  | [], [] => true
  | item :: rest, other :: others => equals item other && equalItems rest others
  | _, _ => false

def equalMembers : List (String × Value) → List (String × Value) → Bool
  | [], _ => true
  | (name, value) :: rest, others =>
      (match others.lookup name with
        | some other => equals value other
        | none => false) && equalMembers rest others

end

theorem equals_int_int (m n : Int) : (int m).equals (int n) = decide (m = n) :=
  Number.equals_int_int m n

theorem equalItems_map_iff {f : α → Value} (h : ∀ a b, (f a).equals (f b) = true ↔ a = b)
    (first second : List α) :
    equalItems (first.map f) (second.map f) = true ↔ first = second := by
  induction first generalizing second with
  | nil => cases second <;> simp [equalItems]
  | cons a rest ih =>
      cases second with
      | nil => simp [equalItems]
      | cons b others =>
          simp only [List.map_cons, equalItems, Bool.and_eq_true, h, ih, List.cons.injEq]

/-- Whether two values handed in apart are the very same.  Equal ones are if there is only one of
them: null, truth values, members of enumerations, integers from -5 to 256, and texts and bytes
of at most one unit below 256. -/
def coincides : Value → Value → Bool
  | .null, .null => true
  | .number (.bool a), .number (.bool b) => decide (a = b)
  | .number (.member m), .number (.member n) => decide (m = n)
  | .number (.int m), .number (.int n) => decide (m = n ∧ -5 ≤ m ∧ m ≤ 256)
  | .text s, .text t =>
      decide (s = t ∧ s.toList.length ≤ 1) && s.toList.all fun c => decide (c.toNat < 256)
  | .bytes b, .bytes c => decide (b = c ∧ b.length ≤ 1)
  | _, _ => false

/-- A value shares its parts with itself, so only a number on its own can differ. -/
def equalsItself : Value → Bool
  | .number n => n.equals n
  | _ => true

def isSomething : Value → Bool
  | .null => false
  | .number n => !n.equals (.int 0)
  | .text s => !s.isEmpty
  | .bytes b => !b.isEmpty
  | .list items => !items.isEmpty
  | .object members => !members.isEmpty

def something? (value : Value) : Option Value :=
  if value.isSomething then some value else none

end Value

def Value.equalOptional : Option Value → Option Value → Bool
  | some first, some second => first.equals second
  | none, none => true
  | _, _ => false

end EasyConnect
