import EasyConnect.Configuration
import EasyConnect.Proofs.Boundaries.Search
import Mathlib.Data.List.Chain

namespace EasyConnect

/-! Boundaries in whole seconds, and the spans of time between them. -/

namespace Boundaries

theorem ascend_number {lower : Number} {values : List Number}
    (h : rises lower values = true) :
    ascend lower (values.map .number) = .ok ⟨values, h⟩ := by
  induction values generalizing lower with
  | nil => rfl
  | cons upper rest ih =>
      have hrises := h
      simp only [rises, Bool.and_eq_true, Bool.not_eq_true'] at hrises
      simp only [List.map_cons, ascend, hrises.1, ih hrises.2]
      rfl

theorem ofValues?_number (boundaries : Boundaries) :
    ofValues? (boundaries.values.map .number) = .ok boundaries := by
  obtain ⟨values, hnonempty, hrising⟩ := boundaries
  cases values with
  | nil => exact absurd rfl hnonempty
  | cons first rest =>
      have hrises := hrising
      simp only [rises, Bool.and_eq_true, Bool.not_eq_true'] at hrises
      simp only [List.map_cons, ofValues?, hrises.1, ascend_number hrises.2]
      rfl

theorem ascend_eq_ok {lower : Number} {values : List Value}
    {rising : { values : List Number // rises lower values = true }}
    (h : ascend lower values = .ok rising) : values = rising.val.map .number := by
  induction values generalizing lower with
  | nil =>
      cases h
      rfl
  | cons value rest ih =>
      cases value with
      | number upper =>
          unfold ascend at h
          split at h
          · cases h
          · cases hrest : ascend upper rest with
            | error refusal =>
                rw [hrest] at h
                cases h
            | ok later =>
                rw [hrest] at h
                cases h
                rw [List.map_cons, ← ih hrest]
      | _ => cases h

theorem ofValues?_eq_ok {values : List Value} {boundaries : Boundaries}
    (h : ofValues? values = .ok boundaries) : values = boundaries.values.map .number := by
  cases values with
  | nil => cases h
  | cons value rest =>
      cases value with
      | number first =>
          simp only [ofValues?] at h
          split at h
          · cases h
          · cases hrest : ascend first rest with
            | error refusal =>
                rw [hrest] at h
                cases h
            | ok later =>
                rw [hrest] at h
                cases h
                rw [List.map_cons, ← ascend_eq_ok hrest]
      | _ => cases h

theorem values_of_numbers {numbers : List Number} {boundaries : Boundaries}
    (h : ofValues? (numbers.map .number) = .ok boundaries) : boundaries.values = numbers := by
  have hinjective : Function.Injective Value.number := fun _ _ => Value.number.inj
  exact (hinjective.list_map (ofValues?_eq_ok h)).symm

theorem rises_int_iff {lower : Int} {values : List Int} :
    rises (.int lower) (values.map .int) = true ↔ (lower :: values).Pairwise (· < ·) := by
  rw [← List.isChain_iff_pairwise]
  induction values generalizing lower with
  | nil => simp [rises]
  | cons upper rest ih =>
      simp only [List.map_cons, rises, Number.le_int_int, Bool.and_eq_true,
        Bool.not_eq_true', decide_eq_false_iff_not, Int.not_le, List.isChain_cons_cons, ih]

theorem getElem?_starts (boundaries : Boundaries) (i : Fin (boundaries.size + 1)) :
    boundaries.starts[i.val]? = some (boundaries.startAt i) :=
  List.getElem?_eq_getElem _

theorem bucketStart_val (boundaries : Boundaries) (i : Fin (boundaries.size + 1)) :
    boundaries.bucketStart i.val = .ok (boundaries.startAt i) := by
  have hstart := boundaries.getElem?_starts i
  cases hval : i.val with
  | zero =>
      rw [hval] at hstart
      rw [← Option.some.inj hstart]
      rfl
  | succ k =>
      have hindex : ((k + 1 : Nat) : Int) - 1 = k := by omega
      rw [hval, starts, List.getElem?_cons_succ] at hstart
      rw [bucketStart, if_neg (by omega), hindex, at?_eq_ok hstart]

theorem bucketStop_val (boundaries : Boundaries) (i : Fin (boundaries.size + 1)) :
    boundaries.bucketStop i.val = .ok (boundaries.stopAt i) := by
  have hstop : boundaries.stops[i.val]? = some (boundaries.stopAt i) :=
    List.getElem?_eq_getElem _
  have hlength : (boundaries.values.map some).length = boundaries.size := List.length_map _
  unfold bucketStop
  by_cases hinside : i.val < boundaries.size
  · rw [stops, List.getElem?_append_left (by omega), List.getElem?_map] at hstop
    obtain ⟨value, hvalue, heq⟩ := Option.map_eq_some_iff.mp hstop
    rw [if_pos (by omega), at?_eq_ok hvalue, ← heq]
    rfl
  · have hlast : i.val = (boundaries.values.map some).length := by omega
    rw [stops, hlast, List.getElem?_concat_length] at hstop
    rw [if_neg (by omega), Option.some.inj hstop]

end Boundaries

theorem Config.ofValues_number (config : Config) :
    ofValues (config.durationBuckets.values.map .number) = .ok config := by
  simp only [ofValues, Boundaries.configure, Boundaries.ofValues?_number]

theorem Config.ofValues_eq_ok {values : List Value} {config : Config}
    (h : ofValues values = .ok config) :
    values = config.durationBuckets.values.map .number := by
  unfold ofValues Boundaries.configure at h
  cases hvalues : Boundaries.ofValues? values with
  | error refusal =>
      rw [hvalues] at h
      cases h
  | ok boundaries =>
      rw [hvalues] at h
      cases h
      exact Boundaries.ofValues?_eq_ok hvalues

/-- The time from `start` on, up to but without `stop`. -/
structure Span where
  start : Int
  stop : Option Int
  deriving DecidableEq

def Span.contains (span : Span) (seconds : Int) : Bool :=
  decide (span.start ≤ seconds) && span.stop.all fun stop => decide (seconds < stop)

theorem Span.contains_iff {span : Span} {seconds : Int} :
    span.contains seconds = true ↔
      span.start ≤ seconds ∧ ∀ stop ∈ span.stop, seconds < stop := by
  simp only [contains, Bool.and_eq_true, decide_eq_true_eq, Option.all_eq_true, Option.mem_def]

/-- Samples below zero go with those that the span from zero on contains. -/
def Span.takes (span : Span) (sample : Int) : Bool :=
  span.contains sample || (decide (sample < 0) && decide (span.start = 0))

def Span.Precedes (first second : Span) : Prop :=
  first.start < second.start ∧ ∃ stop ∈ first.stop, stop ≤ second.start

structure WholeBoundaries where
  values : List Int
  nonempty : values ≠ []
  positive : ∀ n ∈ values, 0 < n
  ascending : values.Pairwise (· < ·)

namespace WholeBoundaries

theorem zero_ascending (whole : WholeBoundaries) :
    (0 :: whole.values).Pairwise (· < ·) :=
  List.pairwise_cons.mpr ⟨whole.positive, whole.ascending⟩

def toBoundaries (whole : WholeBoundaries) : Boundaries where
  values := whole.values.map .int
  nonempty := fun h => whole.nonempty (List.map_eq_nil_iff.mp h)
  rising := Boundaries.rises_int_iff.mpr whole.zero_ascending

theorem ofValues_toBoundaries (whole : WholeBoundaries) :
    Config.ofValues (whole.values.map Value.int) = .ok ⟨whole.toBoundaries⟩ := by
  have h := Config.ofValues_number ⟨whole.toBoundaries⟩
  simp only [toBoundaries, List.map_map] at h
  exact h

@[simp] theorem size_toBoundaries (whole : WholeBoundaries) :
    whole.toBoundaries.size = whole.values.length :=
  List.length_map _

def spans (whole : WholeBoundaries) : List Span :=
  List.zipWith Span.mk (0 :: whole.values) (whole.values.map some ++ [none])

@[simp] theorem length_spans (whole : WholeBoundaries) :
    whole.spans.length = whole.toBoundaries.size + 1 := by
  simp [spans]

def span (whole : WholeBoundaries) (i : Fin (whole.toBoundaries.size + 1)) : Span :=
  whole.spans.get ⟨i.val, by rw [length_spans]; exact i.isLt⟩

theorem start_span (whole : WholeBoundaries) (i : Fin (whole.toBoundaries.size + 1)) :
    (0 :: whole.values)[i.val]? = some (whole.span i).start := by
  have hi : i.val < (0 :: whole.values).length := by
    simpa using i.isLt
  simp only [span, spans, List.get_eq_getElem, List.getElem_zipWith,
    List.getElem?_eq_getElem hi]

theorem stop_span (whole : WholeBoundaries) (i : Fin (whole.toBoundaries.size + 1)) :
    (whole.span i).stop = whole.values[i.val]? := by
  have hi : i.val ≤ whole.values.length := by
    simpa using Nat.le_of_lt_succ i.isLt
  simp only [span, spans, List.get_eq_getElem, List.getElem_zipWith]
  rcases Nat.lt_or_eq_of_le hi with hlt | heq
  · rw [List.getElem_append_left (by simpa using hlt), List.getElem_map,
      List.getElem?_eq_getElem hlt]
  · rw [List.getElem_append_right (by simp [heq]), List.getElem?_eq_none (by omega)]
    simp

theorem startAt_toBoundaries (whole : WholeBoundaries)
    (i : Fin (whole.toBoundaries.size + 1)) :
    whole.toBoundaries.startAt i = .int (whole.span i).start := by
  have hstarts : whole.toBoundaries.starts = (0 :: whole.values).map .int := rfl
  simp only [Boundaries.startAt, hstarts, span, spans, List.get_eq_getElem,
    List.getElem_map, List.getElem_zipWith]

theorem stopAt_toBoundaries (whole : WholeBoundaries)
    (i : Fin (whole.toBoundaries.size + 1)) :
    whole.toBoundaries.stopAt i = (whole.span i).stop.map .int := by
  have hstops : whole.toBoundaries.stops =
      (whole.values.map some ++ [none]).map (Option.map .int) := by
    simp [Boundaries.stops, toBoundaries]
  simp only [Boundaries.stopAt, hstops, span, spans, List.get_eq_getElem,
    List.getElem_map, List.getElem_zipWith]

theorem splits_iff (whole : WholeBoundaries) (seconds : Int) (i : Nat) :
    Boundaries.Splits (.int seconds) whole.toBoundaries.values i i ↔
      (∀ (j : Nat) (h : j < whole.values.length), j < i → whole.values[j] ≤ seconds) ∧
        ∀ (j : Nat) (h : j < whole.values.length), i ≤ j → seconds < whole.values[j] := by
  constructor
  · intro hsplits
    constructor
    · intro j h hbefore
      have hbelow := hsplits.below j (by simpa [toBoundaries] using h) hbefore
      simpa [toBoundaries] using hbelow
    · intro j h hafter
      have habove := hsplits.above j (by simpa [toBoundaries] using h) hafter
      simpa [toBoundaries] using habove
  · rintro ⟨hbelow, habove⟩
    constructor
    · intro j h hbefore
      have hj := hbelow j (by simpa [toBoundaries] using h) hbefore
      simpa [toBoundaries] using hj
    · intro j h hafter
      have hj := habove j (by simpa [toBoundaries] using h) hafter
      simpa [toBoundaries] using hj

theorem rising_toBoundaries (whole : WholeBoundaries) (seconds : Int) :
    whole.toBoundaries.values.Pairwise fun first second =>
      (Number.int seconds).lt first = true → (Number.int seconds).lt second = true := by
  rw [toBoundaries, List.pairwise_map]
  apply whole.ascending.imp
  intro first second hlt
  simp only [Number.lt_int_int, decide_eq_true_eq]
  omega

theorem span_contains_iff (whole : WholeBoundaries) (seconds : Nat)
    (i : Fin (whole.toBoundaries.size + 1)) :
    (whole.span i).contains seconds = true ↔
      Boundaries.Splits (.int seconds) whole.toBoundaries.values i.val i.val := by
  have hascending := List.pairwise_iff_getElem.mp whole.ascending
  have hstart := whole.start_span i
  have hstop := whole.stop_span i
  rw [splits_iff, Span.contains_iff]
  constructor
  · rintro ⟨hfrom, hto⟩
    constructor
    · intro j h hbefore
      obtain ⟨k, hk⟩ := Nat.exists_eq_add_of_lt hbefore
      rw [hk, List.getElem?_cons_succ] at hstart
      obtain ⟨hinside, hlast⟩ := List.getElem?_eq_some_iff.mp hstart
      rcases Nat.eq_or_lt_of_le (Nat.le_add_right j k) with heq | hlt
      · simp only [← heq] at hlast
        omega
      · have := hascending j (j + k) h hinside hlt
        omega
    · intro j h hafter
      have hinside : i.val < whole.values.length := by omega
      have hlast := hto _ (hstop.trans (List.getElem?_eq_getElem hinside))
      rcases Nat.eq_or_lt_of_le hafter with heq | hlt
      · simpa only [← heq] using hlast
      · exact Int.lt_trans hlast (hascending i.val j hinside h hlt)
  · rintro ⟨hbelow, habove⟩
    constructor
    · cases hval : i.val with
      | zero =>
          rw [hval, List.getElem?_cons_zero] at hstart
          have hzero := Option.some.inj hstart
          omega
      | succ k =>
          rw [hval, List.getElem?_cons_succ] at hstart
          obtain ⟨hinside, hlast⟩ := List.getElem?_eq_some_iff.mp hstart
          rw [← hlast]
          exact hbelow k hinside (by omega)
    · intro stop hsome
      obtain ⟨h, rfl⟩ := List.getElem?_eq_some_iff.mp (hstop.symm.trans hsome)
      exact habove i.val h (Nat.le_refl _)

theorem bucketIndex_eq_iff (whole : WholeBoundaries) (seconds : Nat)
    (i : Fin (whole.toBoundaries.size + 1)) :
    whole.toBoundaries.bucketIndex (.int seconds) = i ↔
      (whole.span i).contains seconds = true := by
  rw [span_contains_iff, Fin.ext_iff]
  exact Boundaries.val_bucketIndex_eq_iff _ (whole.rising_toBoundaries seconds)
    (Nat.le_of_lt_succ i.isLt)

theorem start_span_eq_zero_iff (whole : WholeBoundaries)
    (i : Fin (whole.toBoundaries.size + 1)) : (whole.span i).start = 0 ↔ i.val = 0 := by
  have hstart := whole.start_span i
  cases hval : i.val with
  | zero =>
      rw [hval, List.getElem?_cons_zero] at hstart
      simp [← Option.some.inj hstart]
  | succ k =>
      rw [hval, List.getElem?_cons_succ] at hstart
      have hpositive := whole.positive _ (List.mem_of_getElem? hstart)
      omega

theorem start_span_nonneg (whole : WholeBoundaries)
    (i : Fin (whole.toBoundaries.size + 1)) : 0 ≤ (whole.span i).start := by
  have hmem := List.mem_of_getElem? (whole.start_span i)
  rcases List.mem_cons.mp hmem with hzero | hvalue
  · exact Int.le_of_eq hzero.symm
  · exact Int.le_of_lt (whole.positive _ hvalue)

theorem bucketIndex_int_eq_iff (whole : WholeBoundaries) (sample : Int)
    (i : Fin (whole.toBoundaries.size + 1)) :
    whole.toBoundaries.bucketIndex (.int sample) = i ↔
      (whole.span i).takes sample = true := by
  rcases Int.lt_or_le sample 0 with hnegative | hnatural
  · have hcontains : (whole.span i).contains sample = false := by
      have hstart := whole.start_span_nonneg i
      rw [Span.contains, decide_eq_false (by omega), Bool.false_and]
    rw [Span.takes, hcontains, Bool.false_or, decide_eq_true hnegative, Bool.true_and,
      decide_eq_true_eq, start_span_eq_zero_iff, Fin.ext_iff]
    have hzero : (whole.toBoundaries.bucketIndex (.int sample)).val = 0 := by
      rw [Boundaries.val_bucketIndex_eq_iff _ (whole.rising_toBoundaries sample) (Nat.zero_le _),
        splits_iff]
      refine ⟨fun j _ hbefore => absurd hbefore (Nat.not_lt_zero j), fun j h _ => ?_⟩
      exact Int.lt_trans hnegative (whole.positive _ (List.getElem_mem h))
    rw [hzero, eq_comm]
  · obtain ⟨seconds, rfl⟩ := Int.eq_ofNat_of_zero_le hnatural
    have hfalse : decide ((seconds : Int) < 0) = false := decide_eq_false (by omega)
    rw [bucketIndex_eq_iff, Span.takes, hfalse, Bool.false_and, Bool.or_false]

theorem map_start_spans (whole : WholeBoundaries) :
    whole.spans.map Span.start = 0 :: whole.values := by
  apply List.ext_getElem
  · simp
  · intro i h h'
    simp [spans]

theorem spans_ascending (whole : WholeBoundaries) :
    whole.spans.Pairwise fun first second => first.start < second.start := by
  rw [← List.pairwise_map (R := (· < ·)), map_start_spans]
  exact whole.zero_ascending

theorem start_span_lt (whole : WholeBoundaries) {i j : Fin (whole.toBoundaries.size + 1)}
    (h : i < j) : (whole.span i).start < (whole.span j).start :=
  whole.spans_ascending.rel_get_of_lt h

theorem mem_spans_iff (whole : WholeBoundaries) (span : Span) :
    span ∈ whole.spans ↔ ∃ i, whole.span i = span := by
  constructor
  · intro h
    obtain ⟨i, hi⟩ := List.mem_iff_get.mp h
    exact ⟨⟨i.val, by rw [← length_spans]; exact i.isLt⟩, hi⟩
  · rintro ⟨i, rfl⟩
    exact List.get_mem _ _

theorem map_span_finRange (whole : WholeBoundaries) :
    (List.finRange (whole.toBoundaries.size + 1)).map whole.span = whole.spans := by
  apply List.ext_getElem
  · simp
  · intro i h h'
    simp [span]

theorem span_precedes (whole : WholeBoundaries) {i j : Fin (whole.toBoundaries.size + 1)}
    (h : i < j) : (whole.span i).Precedes (whole.span j) := by
  refine ⟨whole.start_span_lt h, ?_⟩
  have hinside : i.val < whole.values.length := by
    have hsize := whole.size_toBoundaries
    omega
  have hstop := (whole.stop_span i).trans (List.getElem?_eq_getElem hinside)
  obtain ⟨k, hk⟩ := Nat.exists_eq_add_of_lt h
  have hstart := whole.start_span j
  rw [hk, List.getElem?_cons_succ] at hstart
  obtain ⟨hlast, heq⟩ := List.getElem?_eq_some_iff.mp hstart
  refine ⟨_, hstop, ?_⟩
  rw [← heq]
  rcases Nat.eq_or_lt_of_le (Nat.le_add_right i.val k) with hsame | hlt
  · simp only [← hsame, Int.le_refl]
  · exact Int.le_of_lt (List.pairwise_iff_getElem.mp whole.ascending _ _ hinside hlast hlt)

theorem spans_precede (whole : WholeBoundaries) : whole.spans.Pairwise Span.Precedes := by
  rw [← map_span_finRange, List.pairwise_map]
  exact (List.pairwise_lt_finRange _).imp fun h => whole.span_precedes h

theorem bucketIndex_mono (whole : WholeBoundaries) {first second : Nat}
    (h : first ≤ second) :
    whole.toBoundaries.bucketIndex (.int first) ≤
      whole.toBoundaries.bucketIndex (.int second) := by
  have hfirst := (whole.bucketIndex_eq_iff first _).mp rfl
  have hsecond := (whole.bucketIndex_eq_iff second _).mp rfl
  rw [Span.contains_iff] at hfirst hsecond
  by_contra hnot
  obtain ⟨-, stop, hstop, hle⟩ := whole.span_precedes (Fin.not_le.mp hnot)
  have hbefore := hsecond.2 stop hstop
  omega

end WholeBoundaries

end EasyConnect
