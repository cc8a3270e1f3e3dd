import EasyConnect.Binary64.Nearest

namespace EasyConnect.Binary64

/-! Sums of binary64 numbers: the exact sum, rounded once. -/

def ofRat (negativeZero : Bool) (q : Rat) : Binary64 :=
  if q.num = 0 then .finite negativeZero 0 0
  else ofQuotient (decide (q.num < 0)) q.num.natAbs q.den

/-- A sum of zero is negative if both numbers are; opposite infinities have no sum. -/
def add : Binary64 → Binary64 → Binary64
  | .finite p m e, .finite q n f => ofRat (p && q) (signed p m e + signed q n f)
  | .finite _ _ _, .infinite q => .infinite q
  | .infinite p, .finite _ _ _ => .infinite p
  | .infinite p, .infinite q => if p = q then .infinite p else .nan
  | .nan, _ => .nan
  | _, .nan => .nan

def ofInt? (n : Int) : Option Binary64 :=
  match ofQuotient (decide (n < 0)) n.natAbs 1 with
  | .finite negative mantissa exponent => some (.finite negative mantissa exponent)
  | _ => none

end EasyConnect.Binary64
