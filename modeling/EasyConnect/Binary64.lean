namespace EasyConnect

/-! Binary64 numbers as exact values: a finite one is its sign, mantissa and exponent, and stands
for the rational `± mantissa * 2 ^ exponent`. -/

inductive Binary64
  | nan
  | infinite (negative : Bool)
  | finite (negative : Bool) (mantissa : Nat) (exponent : Int)
  deriving DecidableEq

/-- A place on the line of the rationals closed by the two infinities. -/
inductive Place
  | below
  | point (q : Rat)
  | above
  deriving DecidableEq

namespace Place

def lt : Place → Place → Bool
  | .below, .below => false
  | .below, _ => true
  | .point p, .point q => decide (p < q)
  | .point _, .above => true
  | _, _ => false

def le (first second : Place) : Bool :=
  !second.lt first

def ofInt (n : Int) : Place :=
  .point (n : Rat)

@[simp] theorem ofInt_lt_ofInt (m n : Int) :
    (ofInt m).lt (ofInt n) = decide (m < n) := by
  simp only [ofInt, lt, Rat.intCast_lt_intCast]

@[simp] theorem ofInt_le_ofInt (m n : Int) :
    (ofInt m).le (ofInt n) = decide (m ≤ n) := by
  rw [le, ofInt_lt_ofInt, ← decide_not]
  exact decide_eq_decide.mpr Int.not_lt

theorem lt_trans {first second third : Place}
    (h : first.lt second = true) (h' : second.lt third = true) :
    first.lt third = true := by
  cases first <;> cases second <;> cases third <;>
    simp only [lt, decide_eq_true_eq, Bool.false_eq_true] at h h' ⊢
  exact Std.lt_trans h h'

end Place

namespace Binary64

def mantissaLimit : Nat :=
  9007199254740992

def normalMantissa : Nat :=
  4503599627370496

def magnitude (mantissa : Nat) (exponent : Int) : Rat :=
  (mantissa : Rat) * (2 : Rat) ^ exponent

def signed (negative : Bool) (mantissa : Nat) (exponent : Int) : Rat :=
  if negative then -magnitude mantissa exponent else magnitude mantissa exponent

def toRat? : Binary64 → Option Rat
  | .nan => none
  | .infinite _ => none
  | .finite negative mantissa exponent => some (signed negative mantissa exponent)

/-- Every number but `nan` has a place. -/
def place? : Binary64 → Option Place
  | .nan => none
  | .infinite negative => some (if negative then .below else .above)
  | .finite negative mantissa exponent => some (.point (signed negative mantissa exponent))

def truncated (q : Rat) : Int :=
  q.num.tdiv q.den

end Binary64

end EasyConnect
