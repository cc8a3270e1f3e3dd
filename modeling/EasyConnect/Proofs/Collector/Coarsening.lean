import EasyConnect.Proofs.Boundaries.Refinement
import EasyConnect.Proofs.Collector.Conservation
import Mathlib.Data.List.Forall2

namespace EasyConnect

/-! Two collectors that get the same requests, the boundaries of one being among those of the
other.  Whatever the coarser one shows can be had from the record of the finer one. -/

theorem countP_or_of_disjoint {p q : α → Bool} (h : ∀ x, p x = true → q x = false)
    (xs : List α) : xs.countP (fun x => p x || q x) = xs.countP p + xs.countP q := by
  induction xs with
  | nil => rfl
  | cons x rest ih =>
      rw [List.countP_cons, List.countP_cons, List.countP_cons, ih]
      cases hp : p x with
      | false =>
          simp only [Bool.false_or, Bool.false_eq_true, if_false]
          omega
      | true =>
          simp only [h x hp, Bool.true_or, if_true, Bool.false_eq_true, if_false]
          omega

theorem countP_any_of_disjoint {p : ι → α → Bool} {indexes : List ι}
    (h : indexes.Pairwise fun i j => ∀ x, p i x = true → p j x = false) (xs : List α) :
    xs.countP (fun x => indexes.any fun i => p i x) =
      (indexes.map fun i => xs.countP (p i)).sum := by
  induction indexes with
  | nil => exact congrFun List.countP_false xs
  | cons i rest ih =>
      obtain ⟨hfirst, hrest⟩ := List.pairwise_cons.mp h
      have hdisjoint (x : α) (hx : p i x = true) : (rest.any fun j => p j x) = false :=
        List.any_eq_false.mpr fun j hj => Bool.eq_false_iff.mp (hfirst j hj x hx)
      simp only [List.any_cons, List.map_cons, List.sum_cons]
      rw [countP_or_of_disjoint hdisjoint, ih hrest]

variable {fine coarse : WholeBoundaries}

theorem Step.lasts_eq_any (hrefines : coarse.values ⊆ fine.values) {wide : Span}
    (hwide : wide ∈ coarse.spans) (step : Step) :
    step.lasts wide =
      (fine.spans.filter fun span => span.liesIn wide).any fun span => step.lasts span := by
  cases step with
  | duration value =>
      exact WholeBoundaries.contains_eq_any hrefines hwide (Int.natCast_nonneg _)
  | _ => exact (List.any_eq_false.mpr fun _ _ => Bool.false_ne_true).symm

theorem Step.lasts_disjoint {first second : Span} (h : first.Precedes second) (step : Step)
    (hfirst : step.lasts first = true) : step.lasts second = false := by
  cases step with
  | duration value => exact h.contains_eq_false hfirst
  | _ => rfl

theorem Totals.duration_eq_sum (hrefines : coarse.values ⊆ fine.values) (steps : List Step)
    {wide : Span} (hwide : wide ∈ coarse.spans) :
    (ofSteps coarse steps).duration wide =
      ((fine.spans.filter fun span => span.liesIn wide).map
        (ofSteps fine steps).duration).sum := by
  have hdisjoint : (fine.spans.filter fun span => span.liesIn wide).Pairwise
      fun first second => ∀ step : Step, step.lasts first = true → step.lasts second = false :=
    (fine.spans_precede.filter _).imp fun h => Step.lasts_disjoint h
  calc
    (ofSteps coarse steps).duration wide = steps.countP (Step.lasts wide) := if_pos hwide
    _ = ((fine.spans.filter fun span => span.liesIn wide).map fun span =>
          steps.countP (Step.lasts span)).sum := by
      rw [funext (Step.lasts_eq_any hrefines hwide), countP_any_of_disjoint hdisjoint]
    _ = ((fine.spans.filter fun span => span.liesIn wide).map
          (ofSteps fine steps).duration).sum := by
      congr 1
      apply List.map_congr_left
      intro span hspan
      exact (if_pos (List.mem_of_mem_filter hspan)).symm

namespace Record

def countWithin (record : Record) (wide : Span) : Nat :=
  (((record.operationTime.map BucketCount.entry).filter fun entry =>
    entry.1.liesIn wide).map Prod.snd).sum

/-- The record with its operation times put together by the given spans. -/
def coarsened (record : Record) (spans : List Span) : Record :=
  { record with
    operationTime :=
      (spans.filter fun span => decide (0 < record.countWithin span)).map fun span =>
        ⟨span.start, span.stop, record.countWithin span⟩ }

theorem entries_coarsened (record : Record) (spans : List Span) :
    (record.coarsened spans).operationTime.map BucketCount.entry =
      (spans.filter fun span => decide (0 < record.countWithin span)).map fun span =>
        (span, record.countWithin span) :=
  List.map_map

theorem Shows.countWithin_eq {record : Record} {steps : List Step}
    (h : record.Shows (Totals.ofSteps fine steps)) (wide : Span) :
    record.countWithin wide =
      ((fine.spans.filter fun span => span.liesIn wide).map
        (Totals.ofSteps fine steps).duration).sum :=
  h.durations.sum_filter fine.spans_ascending
    (fun _ hpositive => Totals.mem_spans_of_duration_pos hpositive) fun span => span.liesIn wide

theorem Shows.coarsened (hrefines : coarse.values ⊆ fine.values) {record : Record}
    {steps : List Step} (h : record.Shows (Totals.ofSteps fine steps)) :
    (record.coarsened coarse.spans).Shows (Totals.ofSteps coarse steps) where
  counters := h.counters
  failures := h.failures
  successes := h.successes
  durations := by
    rw [entries_coarsened]
    apply Lists.of_indexes coarse.spans_ascending
    · intro wide hwide
      rw [h.countWithin_eq, Totals.duration_eq_sum hrefines steps hwide]
    · exact fun wide hpositive => ⟨wide, Totals.mem_spans_of_duration_pos hpositive, rfl⟩

/-- The summary has the buckets of the coarser boundaries, each with what the buckets within it
have in the detailed record, and is the same otherwise. -/
structure CoarsensTo (fine coarse : WholeBoundaries) (detailed summary : Record) : Prop where
  counters : summary.counters = detailed.counters
  failures : summary.failures = detailed.failures
  successes : summary.successes = detailed.successes
  durations : ∀ wide ∈ coarse.spans, summary.totals.duration wide =
    ((fine.spans.filter fun span => span.liesIn wide).map detailed.totals.duration).sum
  coarsened : summary = detailed.coarsened coarse.spans

theorem Shows.coarsensTo (hrefines : coarse.values ⊆ fine.values) {detailed summary : Record}
    {steps : List Step} (h : detailed.Shows (Totals.ofSteps fine steps))
    (h' : summary.Shows (Totals.ofSteps coarse steps)) :
    detailed.CoarsensTo fine coarse summary := by
  have heq : summary = detailed.coarsened coarse.spans := h'.unique (h.coarsened hrefines)
  constructor
  case counters => rw [heq]; rfl
  case failures => rw [heq]; rfl
  case successes => rw [heq]; rfl
  case durations =>
    intro wide hwide
    rw [h.totals_eq, h'.totals_eq]
    exact Totals.duration_eq_sum hrefines steps hwide
  case coarsened => exact heq

end Record

theorem collected_concat (taken : List (Step × Outcome)) (last : Step × Outcome) :
    collected (taken ++ [last]) = collected taken ++ collected [last] :=
  List.filterMap_append

namespace Collector

theorem exists_coarsensTo (hrefines : coarse.values ⊆ fine.values) (steps : List Step) :
    ∃ detailed summary : Record,
      ((empty fine.toBoundaries).run steps).1.record? = .ok detailed ∧
      ((empty coarse.toBoundaries).run steps).1.record? = .ok summary ∧
      detailed.CoarsensTo fine coarse summary := by
  have hfine := holds_run fine.toBoundaries steps
  have hcoarse := holds_run coarse.toBoundaries steps
  rw [sinceReset_transcript] at hfine hcoarse
  obtain ⟨detailed, hdetailed, hshows⟩ := record?_shows hfine
  obtain ⟨summary, hsummary, hshows'⟩ := record?_shows hcoarse
  exact ⟨detailed, summary, hdetailed, hsummary, hshows.coarsensTo hrefines hshows'⟩

theorem forall₂_collected (hrefines : coarse.values ⊆ fine.values) (steps : List Step) :
    List.Forall₂ (Record.CoarsensTo fine coarse)
      (collected ((empty fine.toBoundaries).transcript steps))
      (collected ((empty coarse.toBoundaries).transcript steps)) := by
  -- From the end: what the last step hands out is the record after the steps before it.
  induction steps using List.reverseRecOn with
  | nil => exact .nil
  | append_singleton steps last ih =>
      rw [transcript_concat, transcript_concat, collected_concat, collected_concat]
      apply List.rel_append ih
      cases hcollects : last.collects with
      | false =>
          rw [collected_cons_of_not hcollects, collected_cons_of_not hcollects]
          exact .nil
      | true =>
          obtain ⟨detailed, summary, hdetailed, hsummary, hcoarsens⟩ :=
            exists_coarsensTo hrefines steps
          rw [collected_cons hcollects (step_of_collects hdetailed hcollects).2,
            collected_cons hcollects (step_of_collects hsummary hcollects).2]
          exact .cons hcoarsens .nil

/-- Where the boundaries of one collector are all among those of another, every bucket of the finer
one is in exactly one of the coarser one. After any steps that both have taken, the coarser one has
in each bucket what the finer one has in the buckets within, the rest of their records is the same,
and so it is for the records collected on the way. -/
theorem coarser_buckets_sum_finer (fine coarse : WholeBoundaries)
    (hrefines : coarse.values ⊆ fine.values) :
    ∃ fineConfig coarseConfig,
      Config.ofValues (fine.values.map Value.int) = .ok fineConfig ∧
      Config.ofValues (coarse.values.map Value.int) = .ok coarseConfig ∧
      (∀ span ∈ fine.spans, ∃! wide, wide ∈ coarse.spans ∧ span.liesIn wide = true) ∧
      ∀ steps : List Step,
        (∃ detailed summary : Record,
          ((empty fineConfig.durationBuckets).run steps).1.record? = .ok detailed ∧
          ((empty coarseConfig.durationBuckets).run steps).1.record? = .ok summary ∧
          detailed.CoarsensTo fine coarse summary) ∧
        List.Forall₂ (Record.CoarsensTo fine coarse)
          (collected ((empty fineConfig.durationBuckets).transcript steps))
          (collected ((empty coarseConfig.durationBuckets).transcript steps)) := by
  refine ⟨⟨fine.toBoundaries⟩, ⟨coarse.toBoundaries⟩, fine.ofValues_toBoundaries,
    coarse.ofValues_toBoundaries, ?_, ?_⟩
  · exact fun span hspan => WholeBoundaries.existsUnique_liesIn hrefines hspan
  · exact fun steps => ⟨exists_coarsensTo hrefines steps, forall₂_collected hrefines steps⟩

theorem standard_buckets_sum_finer :
    ([1, 10, 25, 39] : List Int) ⊆ [1, 5, 10, 25, 30, 39] ∧
      ∃ fineConfig, Config.ofValues ([1, 5, 10, 25, 30, 39].map Value.int) = .ok fineConfig ∧
        ∃ detailed summary : Record,
          ((empty fineConfig.durationBuckets).run
            [.duration (.int 40000), .drain, .duration (.int 2000),
              .duration (.int 7000)]).1.record? = .ok detailed ∧
          ((empty Config.standard.durationBuckets).run
            [.duration (.int 40000), .drain, .duration (.int 2000),
              .duration (.int 7000)]).1.record? = .ok summary ∧
          summary.operationTime = [⟨1, some 10, 2⟩] ∧
          detailed.totals.duration ⟨1, some 5⟩ + detailed.totals.duration ⟨5, some 10⟩ = 2 := by
  obtain ⟨fineConfig, coarseConfig, hfine, hcoarse, -, hruns⟩ :=
    coarser_buckets_sum_finer ⟨[1, 5, 10, 25, 30, 39], by decide, by decide, by decide⟩
      ⟨[1, 10, 25, 39], by decide, by decide, by decide⟩ (by decide)
  obtain rfl : coarseConfig = Config.standard :=
    Except.ok.inj (hcoarse.symm.trans (Config.ofValues_number Config.standard))
  obtain ⟨⟨detailed, summary, hdetailed, hsummary, hcoarsens⟩, -⟩ :=
    hruns [.duration (.int 40000), .drain, .duration (.int 2000), .duration (.int 7000)]
  have htimes : summary.operationTime = [⟨1, some 10, 2⟩] := by
    have hevaluated : (((empty Config.standard.durationBuckets).run
        [.duration (.int 40000), .drain, .duration (.int 2000),
          .duration (.int 7000)]).1.record?).toOption.map Record.operationTime =
        some [⟨1, some 10, 2⟩] := by decide +kernel
    rw [hsummary] at hevaluated
    exact Option.some.inj hevaluated
  have hsum := hcoarsens.durations ⟨1, some 10⟩ (by decide)
  have htotal : summary.totals.duration ⟨1, some 10⟩ = 2 := by
    rw [Record.totals, htimes]
    rfl
  rw [htotal] at hsum
  exact ⟨by decide, fineConfig, hfine, detailed, summary, hdetailed, hsummary, htimes, hsum.symm⟩

end Collector

end EasyConnect
