import EasyConnect.Histogram

namespace EasyConnect.Boundaries

/-! The search by halving ends where the values above a sample begin. -/

/-- Below `lo` no value exceeds the sample, and from `hi` on every one does. -/
structure Splits (sample : Number) (values : List Number) (lo hi : Nat) : Prop where
  below : ∀ (i : Nat) (h : i < values.length), i < lo → sample.lt values[i] = false
  above : ∀ (i : Nat) (h : i < values.length), hi ≤ i → sample.lt values[i] = true

theorem Splits.whole (sample : Number) (values : List Number) :
    Splits sample values 0 values.length where
  below _ _ hlo := absurd hlo (Nat.not_lt_zero _)
  above _ h hhi := absurd h (Nat.not_lt.mpr hhi)

theorem Splits.unique {sample : Number} {values : List Number} {first second : Nat}
    (hfirst : Splits sample values first first) (hsecond : Splits sample values second second)
    (hle : first ≤ values.length) (hle' : second ≤ values.length) : first = second := by
  rcases Nat.lt_trichotomy first second with hlt | heq | hgt
  · have hinside : first < values.length := by omega
    have hbelow := hsecond.below first hinside hlt
    rw [hfirst.above first hinside (Nat.le_refl _)] at hbelow
    cases hbelow
  · exact heq
  · have hinside : second < values.length := by omega
    have hbelow := hfirst.below second hinside hgt
    rw [hsecond.above second hinside (Nat.le_refl _)] at hbelow
    cases hbelow

theorem search_splits {sample : Number} {values : List Number} {lo hi : Nat}
    (hrising : values.Pairwise fun first second =>
      sample.lt first = true → sample.lt second = true)
    (hle : lo ≤ hi) (hhi : hi ≤ values.length) (hsplits : Splits sample values lo hi) :
    Splits sample values (search sample values lo hi) (search sample values lo hi) := by
  rw [List.pairwise_iff_getElem] at hrising
  fun_induction search sample values lo hi with
  | case1 lo hi hrange middle inside hlt ih =>
      apply ih (by omega) (by omega)
      refine ⟨hsplits.below, ?_⟩
      intro i hi' hmiddle
      rcases Nat.eq_or_lt_of_le hmiddle with rfl | hbefore
      · exact hlt
      · exact hrising middle i inside hi' hbefore hlt
  | case2 lo hi hrange middle inside hlt ih =>
      apply ih (by omega) (by omega)
      refine ⟨?_, hsplits.above⟩
      intro i hi' hmiddle
      rcases Nat.eq_or_lt_of_le (Nat.le_of_lt_succ hmiddle) with rfl | hbefore
      · exact Bool.eq_false_iff.mpr hlt
      · rw [Bool.eq_false_iff]
        intro hi_lt
        exact hlt (hrising i middle hi' inside hbefore hi_lt)
  | case3 lo hi hrange =>
      have heq : lo = hi := by omega
      subst heq
      exact hsplits

theorem val_bucketIndex_eq_iff (boundaries : Boundaries) {sample : Number} {i : Nat}
    (hrising : boundaries.values.Pairwise fun first second =>
      sample.lt first = true → sample.lt second = true)
    (hi : i ≤ boundaries.size) :
    (boundaries.bucketIndex sample).val = i ↔ Splits sample boundaries.values i i := by
  have hsearch := search_splits hrising (Nat.zero_le _) (Nat.le_refl _)
    (Splits.whole sample boundaries.values)
  constructor
  · rintro rfl
    exact hsearch
  · intro hsplits
    exact hsearch.unique hsplits (Nat.le_of_lt_succ (boundaries.bucketIndex sample).isLt) hi

end EasyConnect.Boundaries
