import EasyConnect.Value

namespace EasyConnect

/-! Bucket boundaries: at least one number, each of them not at or below the one before, and the
first not at or below zero. -/

namespace Boundaries

inductive Refusal
  | empty
  | notPositive (first : Number)
  | notAscending (lower upper : Number)
  | incomparable (left right : String)

/-- The numbers rise from `lower` on, as far as each next one can be compared. -/
def rises : Number → List Number → Bool
  | _, [] => true
  | lower, upper :: rest => !upper.le lower && rises upper rest

def ascend (lower : Number) : List Value →
    Except Refusal { values : List Number // rises lower values = true }
  | [] => .ok ⟨[], rfl⟩
  | .number upper :: rest =>
      if h : upper.le lower = true then .error (.notAscending lower upper)
      else
        match ascend upper rest with
        | .error refusal => .error refusal
        | .ok values => .ok ⟨upper :: values.val, by simp [rises, h, values.property]⟩
  | other :: _ => .error (.incomparable other.kind lower.kind)

end Boundaries

structure Boundaries where
  values : List Number
  nonempty : values ≠ []
  rising : Boundaries.rises (.int 0) values = true

namespace Boundaries

def ofValues? : List Value → Except Refusal Boundaries
  | [] => .error .empty
  | .number first :: rest =>
      if h : first.le (.int 0) = true then .error (.notPositive first)
      else
        match ascend first rest with
        | .error refusal => .error refusal
        | .ok values =>
            .ok ⟨first :: values.val, List.cons_ne_nil _ _,
              by simp [rises, h, values.property]⟩
  | other :: _ => .error (.incomparable other.kind (Number.int 0).kind)

/-- The boundaries that every collector has unless told otherwise, in seconds. -/
def standard : Boundaries where
  values := [.int 1, .int 10, .int 25, .int 39]
  nonempty := List.cons_ne_nil _ _
  rising := by decide +kernel

def size (boundaries : Boundaries) : Nat :=
  boundaries.values.length

theorem size_pos (boundaries : Boundaries) : 0 < boundaries.size :=
  List.length_pos_iff.mpr boundaries.nonempty

def starts (boundaries : Boundaries) : List Number :=
  .int 0 :: boundaries.values

def stops (boundaries : Boundaries) : List (Option Number) :=
  boundaries.values.map some ++ [none]

def written (boundaries : Boundaries) : String :=
  match boundaries.values with
  | [value] => "(" ++ value.written ++ ",)"
  | values => "(" ++ ", ".intercalate (values.map Number.written) ++ ")"

@[simp] theorem length_starts (boundaries : Boundaries) :
    boundaries.starts.length = boundaries.size + 1 := rfl

@[simp] theorem length_stops (boundaries : Boundaries) :
    boundaries.stops.length = boundaries.size + 1 := by
  simp [stops, size]

def startAt (boundaries : Boundaries) (i : Fin (boundaries.size + 1)) : Number :=
  boundaries.starts.get ⟨i.val, by rw [length_starts]; exact i.isLt⟩

def stopAt (boundaries : Boundaries) (i : Fin (boundaries.size + 1)) : Option Number :=
  boundaries.stops.get ⟨i.val, by rw [length_stops]; exact i.isLt⟩

namespace Refusal

def message : Refusal → String
  | .empty => "At least one bucket boundary is required"
  | .notPositive first => "Bucket boundaries must be positive, got " ++ first.text
  | .notAscending lower upper =>
      "Bucket boundaries must be strictly ascending: " ++ lower.text ++ " >= " ++ upper.text
  | .incomparable left right =>
      "'<=' not supported between instances of '" ++ left ++ "' and '" ++ right ++ "'"

end Refusal

end Boundaries

end EasyConnect
