import EasyConnect.Proofs.Boundaries.Whole
import EasyConnect.Proofs.Collector.Slot
import EasyConnect.Proofs.Value

namespace EasyConnect

/-! Where a duration is counted. Any value may be given for one; what it converts to decides, to
the millisecond, which bucket it goes to. -/

namespace Value

/-- How many milliseconds the value stands for. -/
inductive Lasts (value : Value) : Nat → Prop
  | natural {n : Nat} (converts : value.ConvertsTo n) : Lasts value n
  | negative {n : Int} (converts : value.ConvertsTo n) (h : n < 0) : Lasts value 0
  | malformed (h : ∀ n, ¬value.ConvertsTo n) : Lasts value 0

theorem millis_of_convertsTo {value : Value} {n : Int} (h : value.ConvertsTo n) :
    value.millis.1 = n.toNat := by
  rw [millis, toInt?_eq_some_iff.mpr h]
  dsimp only
  split
  · rw [Int.toNat_of_nonpos (Int.le_of_lt ‹_›)]
  · rfl

theorem millis_of_malformed {value : Value} (h : ∀ n, ¬value.ConvertsTo n) :
    value.millis.1 = 0 := by
  have hnone : value.toInt? = none := by
    apply Option.eq_none_iff_forall_ne_some.mpr
    intro n hn
    exact h n (toInt?_eq_some_iff.mp hn)
  rw [millis, hnone]

theorem lasts_millis (value : Value) : value.Lasts value.millis.1 := by
  by_cases hconverts : ∃ n, value.ConvertsTo n
  · obtain ⟨n, hn⟩ := hconverts
    rw [millis_of_convertsTo hn]
    rcases Int.lt_or_le n 0 with hnegative | hnatural
    · rw [Int.toNat_of_nonpos (Int.le_of_lt hnegative)]
      exact .negative hn hnegative
    · apply Lasts.natural
      rw [Int.toNat_of_nonneg hnatural]
      exact hn
  · have hnone : ∀ n, ¬value.ConvertsTo n := not_exists.mp hconverts
    rw [millis_of_malformed hnone]
    exact .malformed hnone

theorem Lasts.eq_millis {value : Value} {millis : Nat} (h : value.Lasts millis) :
    millis = value.millis.1 := by
  cases h with
  | natural hn => rw [millis_of_convertsTo hn, Int.toNat_natCast]
  | negative hn hnegative =>
      rw [millis_of_convertsTo hn, Int.toNat_of_nonpos (Int.le_of_lt hnegative)]
  | malformed hnone => rw [millis_of_malformed hnone]

end Value

def Number.IsFinite (number : Number) : Prop :=
  ∃ q, number.place? = some (.point q)

theorem Number.truncated?_mono {first second : Number} (h : first.IsFinite)
    (h' : second.IsFinite) (hle : first.le second = true) :
    ∃ m n, first.truncated? = some m ∧ second.truncated? = some n ∧ m ≤ n := by
  obtain ⟨p, hp⟩ := h
  obtain ⟨q, hq⟩ := h'
  have hplaces : p ≤ q := by
    simpa [le, hp, hq, Place.le, Place.lt] using hle
  refine ⟨Binary64.truncated p, Binary64.truncated q, ?_, ?_, Binary64.truncated_mono hplaces⟩
  · rw [truncated?, hp]
    rfl
  · rw [truncated?, hq]
    rfl

def Span.ContainsMillis (span : Span) (millis : Nat) : Prop :=
  1000 * span.start ≤ millis ∧ ∀ stop ∈ span.stop, millis < 1000 * stop

theorem Span.containsMillis_iff {span : Span} {millis : Nat} :
    span.ContainsMillis millis ↔ span.contains (millis / 1000 : Nat) = true := by
  obtain ⟨start, stop⟩ := span
  have hstart : 1000 * start ≤ millis ↔ start ≤ (millis / 1000 : Nat) := by omega
  have hstop (last : Int) : millis < 1000 * last ↔ (millis / 1000 : Nat) < last := by omega
  simp only [ContainsMillis, contains_iff, hstart, hstop]

namespace WholeBoundaries

def place (whole : WholeBoundaries) (value : Value) : Fin (whole.toBoundaries.size + 1) :=
  whole.toBoundaries.bucketIndex (.int (value.millis.1 / 1000 : Nat))

/-- A rule that sends values to buckets as durations are to be sent: each by the milliseconds it
stands for, in the order of numbers, and whatever its kind. -/
structure PlacesDurations (whole : WholeBoundaries)
    (place : Value → Fin (whole.toBoundaries.size + 1)) : Prop where
  timed : ∀ value : Value, ∃! millis, value.Lasts millis
  located : ∀ (value : Value) (millis : Nat), value.Lasts millis →
    ∀ i, place value = i ↔ (whole.span i).ContainsMillis millis
  monotone : ∀ first second : Number, first.IsFinite → second.IsFinite →
    first.le second = true → place (.number first) ≤ place (.number second)
  kindless : ∀ (first second : Value) (n : Int), first.ConvertsTo n → second.ConvertsTo n →
    place first = place second

theorem placesDurations_place (whole : WholeBoundaries) :
    whole.PlacesDurations whole.place := by
  constructor
  case timed => exact fun value => ⟨_, value.lasts_millis, fun _ h => h.eq_millis⟩
  case located =>
    intro value millis hlasts i
    rw [hlasts.eq_millis, Span.containsMillis_iff]
    exact whole.bucketIndex_eq_iff _ i
  case monotone =>
    intro first second hfirst hsecond hle
    obtain ⟨m, n, hm, hn, hmn⟩ := Number.truncated?_mono hfirst hsecond hle
    apply whole.bucketIndex_mono
    rw [Value.millis_of_convertsTo (Value.truncated?_eq_some_iff.mp hm),
      Value.millis_of_convertsTo (Value.truncated?_eq_some_iff.mp hn)]
    exact Nat.div_le_div_right (Int.toNat_le_toNat hmn)
  case kindless =>
    intro first second n hfirst hsecond
    rw [place, place, Value.millis_of_convertsTo hfirst, Value.millis_of_convertsTo hsecond]

end WholeBoundaries

namespace Collector

/-- Whatever is given for a duration and whatever the collector holds, one is added to one bucket,
which the value alone decides, and to nothing else. -/
theorem duration_adds_one (whole : WholeBoundaries) :
    Config.ofValues (whole.values.map Value.int) = .ok ⟨whole.toBoundaries⟩ ∧
      ∃ place, whole.PlacesDurations place ∧
        ∀ (collector : Collector whole.toBoundaries) (value : Value),
          ∃ notices, collector.step (.duration value) =
            ({ collector with durations := ⟨collector.durations.counts.add (place value) 1⟩ },
              ⟨.ok .done, notices⟩) := by
  refine ⟨whole.ofValues_toBoundaries, whole.place, whole.placesDurations_place, ?_⟩
  intro collector value
  exact ⟨value.millis.2, rfl⟩

end Collector

end EasyConnect
