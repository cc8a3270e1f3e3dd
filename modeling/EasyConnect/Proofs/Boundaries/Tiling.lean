import EasyConnect.Proofs.Boundaries.Reading
import Mathlib.Data.Nat.Size

namespace EasyConnect

/-! The buckets between whole boundaries tile the integers from zero on, and the index of a
sample and the bounds of a bucket invert each other. -/

namespace Boundaries

/-- A finished search: it halves the range from `lo` to `hi` in so many comparisons until nothing
is left of it, and ends at an index. -/
inductive Halves (sample : Number) (values : List Number) : Nat → Nat → Nat → Nat → Prop
  | found (index : Nat) : Halves sample values index index 0 index
  | before {lo hi steps index : Nat} (nonempty : lo < hi)
      (inside : (lo + hi) / 2 < values.length)
      (exceeds : sample.lt values[(lo + hi) / 2] = true)
      (later : Halves sample values lo ((lo + hi) / 2) steps index) :
      Halves sample values lo hi (steps + 1) index
  | behind {lo hi steps index : Nat} (nonempty : lo < hi)
      (inside : (lo + hi) / 2 < values.length)
      (reached : sample.lt values[(lo + hi) / 2] = false)
      (later : Halves sample values ((lo + hi) / 2 + 1) hi steps index) :
      Halves sample values lo hi (steps + 1) index

theorem size_half_lt {half whole : Nat} (h : 2 * half ≤ whole) (hpositive : 0 < whole) :
    half.size < whole.size := by
  rw [Nat.lt_size]
  cases hsize : half.size with
  | zero => exact hpositive
  | succ bits =>
      have hhalf : 2 ^ bits ≤ half := Nat.lt_size.mp (by omega)
      calc
        2 ^ (bits + 1) = 2 * 2 ^ bits := Nat.pow_succ'
        _ ≤ 2 * half := Nat.mul_le_mul_left 2 hhalf
        _ ≤ whole := h

theorem halves_search (sample : Number) (values : List Number) (lo hi : Nat) (hle : lo ≤ hi)
    (hhi : hi ≤ values.length) :
    ∃ steps ≤ (hi - lo).size, Halves sample values lo hi steps (search sample values lo hi) := by
  fun_induction search sample values lo hi with
  | case1 lo hi hrange middle inside hlt ih =>
      obtain ⟨steps, hsteps, hlater⟩ := ih (by omega) (by omega)
      have hfewer : (middle - lo).size < (hi - lo).size := size_half_lt (by omega) (by omega)
      exact ⟨steps + 1, by omega, .before hrange.1 inside hlt hlater⟩
  | case2 lo hi hrange middle inside hlt ih =>
      obtain ⟨steps, hsteps, hlater⟩ := ih (by omega) (by omega)
      have hfewer : (hi - (middle + 1)).size < (hi - lo).size :=
        size_half_lt (by omega) (by omega)
      exact ⟨steps + 1, by omega, .behind hrange.1 inside (Bool.eq_false_iff.mpr hlt) hlater⟩
  | case3 lo hi hrange =>
      obtain rfl : lo = hi := by omega
      exact ⟨0, Nat.zero_le _, .found lo⟩

/-- The spans are what the buckets report as their bounds.  They follow one another from zero on
without a gap, and the index of a sample leads to the one that contains it. -/
structure Tiles (boundaries : Boundaries) (numbers : List Int)
    (spans : Fin (boundaries.size + 1) → Span) : Prop where
  size_eq : boundaries.size = numbers.length
  start_eq : ∀ i, boundaries.bucketStart i.val = .ok (.int (spans i).start)
  stop_eq : ∀ i, boundaries.bucketStop i.val = .ok ((spans i).stop.map .int)
  halts : ∀ sample : Int, ∃ steps ≤ Nat.size boundaries.size,
    Halves (.int sample) boundaries.values 0 boundaries.size steps
      (boundaries.bucketIndex (.int sample)).val
  index_eq_countP : ∀ sample : Int,
    (boundaries.bucketIndex (.int sample)).val = numbers.countP fun n => decide (n ≤ sample)
  index_eq_iff : ∀ sample : Int, 0 ≤ sample → ∀ i,
    boundaries.bucketIndex (.int sample) = i ↔ (spans i).contains sample = true
  index_mono : ∀ first second : Int, first ≤ second →
    boundaries.bucketIndex (.int first) ≤ boundaries.bucketIndex (.int second)
  index_start : ∀ i, boundaries.bucketIndex (.int (spans i).start) = i
  stop_eq_start : ∀ i : Fin boundaries.size,
    (spans i.castSucc).stop = some (spans i.succ).start ∧
      (spans i.castSucc).start < (spans i.succ).start
  index_stop : ∀ i : Fin boundaries.size, ∀ stop ∈ (spans i.castSucc).stop,
    boundaries.bucketIndex (.int stop) = i.succ ∧
      boundaries.bucketIndex (.int (stop - 1)) = i.castSucc
  stop_eq_none_iff : ∀ i, (spans i).stop = none ↔ i = Fin.last boundaries.size

end Boundaries

namespace WholeBoundaries

variable (whole : WholeBoundaries)

theorem val_bucketIndex_int (sample : Int) :
    (whole.toBoundaries.bucketIndex (.int sample)).val =
      whole.values.countP fun n => decide (n ≤ sample) := by
  have hsize := whole.size_toBoundaries
  have hinside := (whole.toBoundaries.bucketIndex (.int sample)).isLt
  obtain ⟨hbelow, habove⟩ := (whole.splits_iff sample _).mp
    ((Boundaries.val_bucketIndex_eq_iff _ (whole.rising_toBoundaries sample)
      (Nat.le_of_lt_succ hinside)).mp rfl)
  have hle : (whole.toBoundaries.bucketIndex (.int sample)).val ≤ whole.values.length := by
    omega
  generalize (whole.toBoundaries.bucketIndex (.int sample)).val = index at hle hbelow habove ⊢
  -- The sample reaches every boundary in front of the index and none behind it.
  have htake : (whole.values.take index).countP (fun n => decide (n ≤ sample)) = index := by
    have hlength : (whole.values.take index).length = index := List.length_take_of_le hle
    nth_rewrite 2 [← hlength]
    rw [List.countP_eq_length]
    intro n hn
    obtain ⟨j, hj, rfl⟩ := List.mem_take_iff_getElem.mp hn
    exact decide_eq_true (hbelow j (by omega) (by omega))
  have hdrop : (whole.values.drop index).countP (fun n => decide (n ≤ sample)) = 0 := by
    rw [List.countP_eq_zero]
    intro n hn
    obtain ⟨j, hj, rfl⟩ := List.mem_drop_iff_getElem.mp hn
    have hlt := habove (index + j) (by omega) (Nat.le_add_right index j)
    rw [decide_eq_true_eq]
    omega
  calc
    index = (whole.values.take index).countP (fun n => decide (n ≤ sample)) +
        (whole.values.drop index).countP fun n => decide (n ≤ sample) := by rw [htake, hdrop]; rfl
    _ = whole.values.countP fun n => decide (n ≤ sample) := by
        rw [← List.countP_append, List.take_append_drop]

theorem bucketIndex_int_mono {first second : Int} (h : first ≤ second) :
    whole.toBoundaries.bucketIndex (.int first) ≤
      whole.toBoundaries.bucketIndex (.int second) := by
  rw [Fin.le_def, val_bucketIndex_int, val_bucketIndex_int]
  apply List.countP_mono_left
  intro n _ hn
  exact decide_eq_true (Int.le_trans (of_decide_eq_true hn) h)

theorem bucketIndex_of_nonneg {sample : Int} (h : 0 ≤ sample)
    (i : Fin (whole.toBoundaries.size + 1)) :
    whole.toBoundaries.bucketIndex (.int sample) = i ↔
      (whole.span i).contains sample = true := by
  obtain ⟨seconds, rfl⟩ := Int.eq_ofNat_of_zero_le h
  exact whole.bucketIndex_eq_iff seconds i

theorem bucketStart_toBoundaries (i : Fin (whole.toBoundaries.size + 1)) :
    whole.toBoundaries.bucketStart i.val = .ok (.int (whole.span i).start) := by
  rw [Boundaries.bucketStart_val, startAt_toBoundaries]

theorem bucketStop_toBoundaries (i : Fin (whole.toBoundaries.size + 1)) :
    whole.toBoundaries.bucketStop i.val = .ok ((whole.span i).stop.map .int) := by
  rw [Boundaries.bucketStop_val, stopAt_toBoundaries]

theorem stop_span_castSucc (i : Fin whole.toBoundaries.size) :
    (whole.span i.castSucc).stop = some (whole.span i.succ).start := by
  rw [stop_span, ← start_span, Fin.val_succ, List.getElem?_cons_succ, Fin.val_castSucc]

theorem stop_span_eq_none_iff (i : Fin (whole.toBoundaries.size + 1)) :
    (whole.span i).stop = none ↔ i = Fin.last whole.toBoundaries.size := by
  have hinside := i.isLt
  have hsize := whole.size_toBoundaries
  rw [stop_span, List.getElem?_eq_none_iff, Fin.ext_iff, Fin.val_last]
  omega

theorem bucketIndex_start_span (i : Fin (whole.toBoundaries.size + 1)) :
    whole.toBoundaries.bucketIndex (.int (whole.span i).start) = i := by
  rw [bucketIndex_of_nonneg _ (whole.start_span_nonneg i), Span.contains,
    decide_eq_true (Int.le_refl _), Bool.true_and, Option.all_eq_true]
  intro stop hstop
  have hlast : i ≠ Fin.last whole.toBoundaries.size := by
    rw [ne_eq, ← stop_span_eq_none_iff, hstop]
    exact Option.some_ne_none stop
  obtain ⟨j, rfl⟩ := Fin.exists_castSucc_eq.mpr hlast
  rw [stop_span_castSucc, Option.some.injEq] at hstop
  rw [← hstop]
  exact decide_eq_true (whole.start_span_lt Fin.castSucc_lt_succ)

theorem bucketIndex_stop_span (i : Fin whole.toBoundaries.size) {stop : Int}
    (h : (whole.span i.castSucc).stop = some stop) :
    whole.toBoundaries.bucketIndex (.int stop) = i.succ ∧
      whole.toBoundaries.bucketIndex (.int (stop - 1)) = i.castSucc := by
  have hnext := h.symm.trans (whole.stop_span_castSucc i)
  obtain rfl := Option.some.inj hnext
  have hbelow : (whole.span i.castSucc).start < (whole.span i.succ).start :=
    whole.start_span_lt Fin.castSucc_lt_succ
  have hnonneg := whole.start_span_nonneg i.castSucc
  refine ⟨whole.bucketIndex_start_span i.succ, ?_⟩
  rw [bucketIndex_of_nonneg _ (by omega), Span.contains, h, Option.all_some,
    decide_eq_true (by omega), decide_eq_true (by omega)]
  rfl

theorem tiles_span : whole.toBoundaries.Tiles whole.values whole.span where
  size_eq := whole.size_toBoundaries
  start_eq := whole.bucketStart_toBoundaries
  stop_eq := whole.bucketStop_toBoundaries
  halts _ := Boundaries.halves_search _ _ 0 _ (Nat.zero_le _) (Nat.le_refl _)
  index_eq_countP := whole.val_bucketIndex_int
  index_eq_iff _ hnonneg i := whole.bucketIndex_of_nonneg hnonneg i
  index_mono _ _ hle := whole.bucketIndex_int_mono hle
  index_start := whole.bucketIndex_start_span
  stop_eq_start i := ⟨whole.stop_span_castSucc i, whole.start_span_lt Fin.castSucc_lt_succ⟩
  index_stop i _ hstop := whole.bucketIndex_stop_span i hstop
  stop_eq_none_iff := whole.stop_span_eq_none_iff

end WholeBoundaries

namespace Boundaries

/-- Integers that are accepted as boundaries part the integers from zero on into buckets. -/
theorem index_inverts_bounds {numbers : List Int} {boundaries : Boundaries}
    (h : configure "boundaries" (numbers.map Value.int) = .ok boundaries) :
    ∃ spans, boundaries.Tiles numbers spans := by
  have hvalues := ofValues?_int_eq_ok_iff.mp (configure_eq_ok h)
  obtain ⟨whole, rfl, rfl⟩ := eq_toBoundaries hvalues.1
  exact ⟨whole.span, whole.tiles_span⟩

theorem index_inverts_standard_bounds :
    configure "boundaries" ([1, 10, 25, 39].map Value.int) = .ok standard ∧
      (∃ spans, standard.Tiles [1, 10, 25, 39] spans) ∧
      (standard.bucketIndex (.int 9)).val = 1 ∧ (standard.bucketIndex (.int 10)).val = 2 := by
  have hconfigured : configure "boundaries" ([1, 10, 25, 39].map Value.int) = .ok standard :=
    configure_number "boundaries" standard
  obtain ⟨spans, htiles⟩ := index_inverts_bounds hconfigured
  exact ⟨hconfigured, ⟨spans, htiles⟩, htiles.index_eq_countP 9, htiles.index_eq_countP 10⟩

end Boundaries

end EasyConnect
