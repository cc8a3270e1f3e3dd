import EasyConnect.Proofs.Collector.History
import EasyConnect.Proofs.Collector.Record
import EasyConnect.Proofs.Listing

namespace EasyConnect

/-! The record of a collector shows exactly how often each thing was asked to be counted since the
last reset. -/

def Step.lasts (span : Span) : Step → Bool
  | .duration value => span.contains value.seconds
  | _ => false

@[ext] structure Totals where
  counter : Counter → Int
  failure : StatusType → Nat
  success : StatusType → Nat
  duration : Span → Nat

def Totals.ofSteps (whole : WholeBoundaries) (steps : List Step) : Totals where
  counter counter := steps.countP (Step.counts counter)
  failure type := steps.countP (Step.failsAs type)
  success type := steps.countP (Step.succeedsAs type)
  duration span := if span ∈ whole.spans then steps.countP (Step.lasts span) else 0

theorem Totals.mem_spans_of_duration_pos {whole : WholeBoundaries} {steps : List Step}
    {span : Span} (h : 0 < (ofSteps whole steps).duration span) : span ∈ whole.spans := by
  by_contra hnot
  have hzero : (ofSteps whole steps).duration span = 0 := if_neg hnot
  exact Nat.ne_of_gt h hzero

def StatusType.rank (type : StatusType) : Int :=
  type.code

def StatusCount.entry (counted : StatusCount) : StatusType × Nat :=
  (counted.type, counted.count)

def BucketCount.entry (counted : BucketCount) : Span × Nat :=
  (⟨counted.start, counted.stop⟩, counted.count)

theorem StatusCount.entry_injective : Function.Injective StatusCount.entry := by
  rintro ⟨type, count⟩ ⟨type', count'⟩ h
  cases h
  rfl

theorem BucketCount.entry_injective : Function.Injective BucketCount.entry := by
  rintro ⟨start, stop, count⟩ ⟨start', stop', count'⟩ h
  cases h
  rfl

/-- The totals stand in the record, each listed once and in order. -/
structure Record.Shows (record : Record) (totals : Totals) : Prop where
  counters : ∀ counter, record.counter counter = totals.counter counter
  failures : Lists StatusType.rank (record.failures.map StatusCount.entry) totals.failure
  successes : Lists StatusType.rank (record.successes.map StatusCount.entry) totals.success
  durations : Lists Span.start (record.operationTime.map BucketCount.entry) totals.duration

theorem Record.Shows.unique {first second : Record} {totals : Totals}
    (h : first.Shows totals) (h' : second.Shows totals) : first = second := by
  obtain ⟨counters, failures, successes, operationTime⟩ := first
  obtain ⟨counters', failures', successes', operationTime'⟩ := second
  have hcounters : counters = counters' := by
    apply Tally.ext
    intro i
    have heq := (h.counters (Counter.ofIndex i)).trans (h'.counters (Counter.ofIndex i)).symm
    simpa only [Record.counter, Counter.index_ofIndex] using heq
  have hfailures : failures = failures' :=
    StatusCount.entry_injective.list_map (h.failures.unique h'.failures)
  have hsuccesses : successes = successes' :=
    StatusCount.entry_injective.list_map (h.successes.unique h'.successes)
  have hdurations : operationTime = operationTime' :=
    BucketCount.entry_injective.list_map (h.durations.unique h'.durations)
  rw [hcounters, hfailures, hsuccesses, hdurations]

namespace Step

theorem adds_bucket {whole : WholeBoundaries} (i : Fin (whole.toBoundaries.size + 1))
    (step : Step) :
    step.adds (.bucket i : Slot whole.toBoundaries) = step.lasts (whole.span i) := by
  cases step with
  | duration value =>
      rw [Bool.eq_iff_iff]
      simp only [adds, lasts, decide_eq_true_eq]
      exact whole.bucketIndex_eq_iff value.seconds i
  | _ => rfl

theorem exists_of_failsAs {type : StatusType} {step : Step} (h : step.failsAs type = true) :
    ∃ code, StatusType.failure code = type := by
  cases type with
  | failure code => exact ⟨code, rfl⟩
  | unknown => cases step <;> cases h
  | success code => cases step <;> cases h

theorem exists_of_succeedsAs {type : StatusType} {step : Step}
    (h : step.succeedsAs type = true) : ∃ code, StatusType.success code = type := by
  cases type with
  | success code => exact ⟨code, rfl⟩
  | unknown => cases step <;> cases h
  | failure code => cases step <;> cases h

end Step

theorem filterMap_statusCount {γ : Type} (codes : List γ) (type : γ → StatusType)
    (held : γ → Int) :
    (codes.filterMap fun code =>
      if 0 < held code then some (StatusCount.mk (type code) (held code).toNat) else none) =
      (codes.filter fun code => decide (0 < held code)).map fun code =>
        ⟨type code, (held code).toNat⟩ := by
  induction codes with
  | nil => rfl
  | cons code rest ih =>
      rw [List.filterMap_cons, List.filter_cons]
      by_cases hpositive : 0 < held code
      · simp only [hpositive, if_true, decide_true, List.map_cons, ih]
      · simp only [hpositive, if_false, decide_false, Bool.false_eq_true, ih]

theorem lists_statusCounts {γ : Type} {codes : List γ} {type : γ → StatusType}
    {held : γ → Int} {asked : StatusType → Step → Bool} {steps : List Step}
    (hascending : codes.Pairwise fun first second =>
      (type first).rank < (type second).rank)
    (hheld : ∀ code, held code = steps.countP (asked (type code)))
    (hcodes : ∀ {status step}, asked status step = true →
      ∃ code ∈ codes, type code = status) :
    Lists StatusType.rank
      ((codes.filterMap fun code =>
        if 0 < held code then some (StatusCount.mk (type code) (held code).toNat)
        else none).map StatusCount.entry)
      fun status => steps.countP (asked status) := by
  have hfilter : (codes.filter fun code => decide (0 < held code)) =
      codes.filter fun code => decide (0 < (held code).toNat) := by
    simp only [Int.lt_toNat, Int.natCast_zero]
  rw [filterMap_statusCount, List.map_map, hfilter]
  apply Lists.of_indexes hascending
  · intro code _
    exact (congrArg Int.toNat (hheld code)).trans (Int.toNat_natCast _)
  · intro status hpositive
    obtain ⟨step, -, hasked⟩ := List.countP_pos_iff.mp hpositive
    exact hcodes hasked

namespace Collector

variable {whole : WholeBoundaries}

theorem lists_operationTime {collector : Collector whole.toBoundaries} {steps : List Step}
    (h : collector.Holds steps) :
    Lists Span.start (collector.operationTime.map BucketCount.entry)
      (Totals.ofSteps whole steps).duration := by
  rw [operationTime, List.map_map]
  have hfilter : ((List.finRange (whole.toBoundaries.size + 1)).filter fun i =>
        decide (0 < collector.durations.counts.get i)) =
      (List.finRange (whole.toBoundaries.size + 1)).filter fun i =>
        decide (0 < (collector.durations.counts.get i).toNat) := by
    simp only [Int.lt_toNat, Int.natCast_zero]
  rw [hfilter]
  apply Lists.of_indexes
  · exact (List.pairwise_lt_finRange _).imp fun hlt => whole.start_span_lt hlt
  · intro i _
    have hheld := h (.bucket i)
    rw [funext (Step.adds_bucket i)] at hheld
    have hmem : whole.span i ∈ whole.spans := (whole.mem_spans_iff _).mpr ⟨i, rfl⟩
    simp only [Totals.ofSteps, hmem, if_true]
    exact (congrArg Int.toNat hheld).trans (Int.toNat_natCast _)
  · intro span hpositive
    have hmem := Totals.mem_spans_of_duration_pos hpositive
    obtain ⟨i, hi⟩ := (whole.mem_spans_iff span).mp hmem
    exact ⟨i, List.mem_finRange i, hi⟩

theorem record?_shows {collector : Collector whole.toBoundaries} {steps : List Step}
    (h : collector.Holds steps) :
    ∃ record, collector.record? = .ok record ∧
      record.Shows (Totals.ofSteps whole steps) := by
  refine ⟨_, collector.record?_toBoundaries, ?_, ?_, ?_, lists_operationTime h⟩
  · intro counter
    exact h (.counter counter)
  · apply lists_statusCounts
    · decide
    · exact fun code => h (.failure code)
    · intro status step hasked
      obtain ⟨code, hcode⟩ := Step.exists_of_failsAs hasked
      exact ⟨code, code.mem_all, hcode⟩
  · apply lists_statusCounts
    · decide
    · exact fun code => h (.success code)
    · intro status step hasked
      obtain ⟨code, hcode⟩ := Step.exists_of_succeedsAs hasked
      exact ⟨code, code.mem_all, hcode⟩

theorem succeeded_of_resets (collector : Collector whole.toBoundaries) {step : Step}
    (h : step.resets = true) : (collector.step step).2.succeeded = true := by
  have hrecord := collector.record?_toBoundaries
  cases step with
  | clear => rfl
  | drain => simp only [Collector.step, draining, hrecord, Outcome.succeeded_ok]
  | report timestamp reset =>
      cases reset with
      | false => cases h
      | true => simp only [Collector.step, draining, hrecord, Outcome.succeeded_ok]
  | _ => cases h

theorem sinceReset_transcript (collector : Collector whole.toBoundaries)
    (steps : List Step) :
    sinceReset (collector.transcript steps) =
      steps.rtakeWhile fun step => !step.resets := by
  have hsucceeded (taken : Step × Outcome) (htaken : taken ∈ collector.transcript steps)
      (hresets : taken.1.resets = true) : taken.2.succeeded = true := by
    induction steps generalizing collector with
    | nil => cases htaken
    | cons step later ih =>
        rcases List.mem_cons.mp htaken with rfl | hlater
        · exact collector.succeeded_of_resets hresets
        · exact ih _ hlater
  rw [sinceReset_eq_of_succeeded hsucceeded, map_fst_transcript]

/-- Whatever the steps and their arguments, the record at the end is the one that shows how often
each thing was asked for since the last reset. -/
theorem run_shows_since_reset (whole : WholeBoundaries) (steps : List Step) :
    ∃ config, Config.ofValues (whole.values.map Value.int) = .ok config ∧
      ∃ record, ((empty config.durationBuckets).run steps).1.record? = .ok record ∧
        record.Shows
          (Totals.ofSteps whole (steps.rtakeWhile fun step => !step.resets)) ∧
        ∀ other : Record,
          other.Shows (Totals.ofSteps whole (steps.rtakeWhile fun step => !step.resets)) →
            other = record := by
  refine ⟨⟨whole.toBoundaries⟩, whole.ofValues_toBoundaries, ?_⟩
  have hholds := holds_run whole.toBoundaries steps
  rw [sinceReset_transcript] at hholds
  obtain ⟨record, hrecord, hshows⟩ := record?_shows hholds
  exact ⟨record, hrecord, hshows, fun other hother => hother.unique hshows⟩

end Collector

end EasyConnect
