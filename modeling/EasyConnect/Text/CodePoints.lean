namespace EasyConnect.Text

/-! Sets of code points, listed as closed ranges in ascending order. -/

abbrev CodePoints := List (Nat × Nat)

def CodePoints.contains : CodePoints → Nat → Bool
  | [], _ => false
  | (first, last) :: later, point =>
      if point < first then false
      else decide (point ≤ last) || contains later point

end EasyConnect.Text
