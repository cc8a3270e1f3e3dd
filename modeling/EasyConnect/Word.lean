namespace EasyConnect

/-! Signed words: the integers from `-wordLimit` up to but without `wordLimit`. -/

def wordLimit : Int :=
  9223372036854775808

def fitsWord (n : Int) : Bool :=
  decide (-wordLimit ≤ n) && decide (n < wordLimit)

theorem fitsWord_iff {n : Int} : fitsWord n = true ↔ -wordLimit ≤ n ∧ n < wordLimit := by
  simp only [fitsWord, Bool.and_eq_true, decide_eq_true_eq]

end EasyConnect
