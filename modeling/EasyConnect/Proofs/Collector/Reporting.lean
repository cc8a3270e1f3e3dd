import EasyConnect.Proofs.Collector.History
import EasyConnect.Proofs.Collector.Record

namespace EasyConnect

/-! When a collector can report. The check of a configuration compares boundaries only, so it also
accepts floats that no record may hold. -/

namespace Boundaries

def isRecordableAt (boundaries : Boundaries) (i : Fin (boundaries.size + 1)) : Bool :=
  (boundaries.startAt i).isRecordable && (boundaries.stopAt i).all Number.isRecordable

theorem isRecordableAt_of_values {boundaries : Boundaries}
    (h : ∀ number ∈ boundaries.values, number.isRecordable = true)
    (i : Fin (boundaries.size + 1)) : boundaries.isRecordableAt i = true := by
  rw [isRecordableAt, Bool.and_eq_true, Option.all_eq_true]
  constructor
  · have hmem : boundaries.startAt i ∈ boundaries.starts := List.get_mem _ _
    rcases List.mem_cons.mp hmem with hzero | hvalue
    · rw [hzero]
      rfl
    · exact h _ hvalue
  · intro stop hstop
    have hmem : boundaries.stopAt i ∈ boundaries.stops := List.get_mem _ _
    rw [hstop, stops, List.mem_append, List.mem_map] at hmem
    rcases hmem with ⟨value, hvalue, heq⟩ | hnone
    · cases heq
      exact h _ hvalue
    · cases List.mem_singleton.mp hnone

def beyondWord : Boundaries where
  values := [.float (.finite false 4882812500000000 11)]
  nonempty := List.cons_ne_nil _ _
  rising := by decide +kernel

end Boundaries

def Step.isReport : Step → Bool
  | .drain | .record | .lines | .dump none | .report _ _ => true
  | _ => false

namespace Collector

variable {boundaries : Boundaries}

theorem succeeded_reading (collector : Collector boundaries) {answer : Record → Outcome}
    (hanswer : ∀ record, (answer record).succeeded = true) :
    (collector.reading answer).2.succeeded = collector.record?.isOk := by
  unfold reading
  cases collector.record? with
  | ok record => exact hanswer record
  | error fault => rfl

theorem succeeded_draining (collector : Collector boundaries) {answer : Record → Outcome}
    (hanswer : ∀ record, (answer record).succeeded = true) :
    (collector.draining answer).2.succeeded = collector.record?.isOk := by
  unfold draining
  cases collector.record? with
  | ok record => exact hanswer record
  | error fault => rfl

theorem succeeded_of_isReport (collector : Collector boundaries) {step : Step}
    (h : step.isReport = true) :
    (collector.step step).2.succeeded = collector.record?.isOk := by
  cases step with
  | drain => exact collector.succeeded_draining fun _ => rfl
  | record => exact collector.succeeded_reading fun _ => rfl
  | lines => exact collector.succeeded_reading fun _ => rfl
  | dump refusal =>
      cases refusal with
      | none => exact collector.succeeded_reading fun _ => rfl
      | some message => cases h
  | report timestamp reset =>
      cases reset with
      | false => exact collector.succeeded_reading fun _ => rfl
      | true => exact collector.succeeded_draining fun _ => rfl
  | _ => cases h

theorem Holds.isOk_record?_iff {collector : Collector boundaries} {steps : List Step}
    (h : collector.Holds steps) :
    collector.record?.isOk = true ↔
      ∀ value, Step.duration value ∈ steps →
        boundaries.isRecordableAt (boundaries.bucketIndex (.int value.seconds)) = true := by
  have hused (i : Fin (boundaries.size + 1)) :
      0 < collector.durations.counts.get i ↔
        ∃ value, Step.duration value ∈ steps ∧
          boundaries.bucketIndex (.int value.seconds) = i := by
    have hheld : collector.durations.counts.get i =
        steps.countP (Step.adds (.bucket i : Slot boundaries)) := h (.bucket i)
    rw [hheld, Int.natCast_pos, List.countP_pos_iff]
    constructor
    · rintro ⟨step, hstep, hadds⟩
      cases step with
      | duration value => exact ⟨value, hstep, of_decide_eq_true hadds⟩
      | _ => cases hadds
    · rintro ⟨value, hvalue, hindex⟩
      exact ⟨.duration value, hvalue, decide_eq_true hindex⟩
  rw [isOk_record?, Histogram.buckets_eq, List.all_map, List.all_eq_true]
  constructor
  · intro hall value hvalue
    apply hall
    rw [List.mem_filter]
    exact ⟨List.mem_finRange _, decide_eq_true ((hused _).mpr ⟨value, hvalue, rfl⟩)⟩
  · intro hall i hi
    obtain ⟨value, hvalue, rfl⟩ := (hused i).mp (of_decide_eq_true (List.mem_filter.mp hi).2)
    exact hall value hvalue

/-- A collector reports exactly as long as the durations since the last reset lie in recordable
buckets, and always if all boundaries are recordable. -/
theorem reports_iff {values : List Value} {config : Config}
    (hconfig : Config.ofValues values = .ok config) (steps : List Step) {last : Step}
    (hlast : last.isReport = true) :
    ((((empty config.durationBuckets).run steps).1.step last).2.succeeded = true ↔
      ∀ value,
        Step.duration value ∈
            sinceReset ((empty config.durationBuckets).transcript steps) →
          config.durationBuckets.isRecordableAt
            (config.durationBuckets.bucketIndex (.int value.seconds)) = true) ∧
    ((∀ number, .number number ∈ values → number.isRecordable = true) →
      (((empty config.durationBuckets).run steps).1.step last).2.succeeded = true) := by
  have hreports := (holds_run config.durationBuckets steps).isOk_record?_iff
  rw [← succeeded_of_isReport _ hlast] at hreports
  refine ⟨hreports, ?_⟩
  intro hvalues
  rw [hreports]
  intro value _
  apply Boundaries.isRecordableAt_of_values
  intro number hnumber
  apply hvalues
  rw [Config.ofValues_eq_ok hconfig]
  exact List.mem_map_of_mem hnumber

theorem reports_once_cleared :
    Config.ofValues [.number (.float (.finite false 4882812500000000 11))] =
        .ok ⟨.beyondWord⟩ ∧
      Step.record.isReport = true ∧
      (((empty .beyondWord).run [.duration (.int 0), .clear]).1.step .record).2.succeeded =
        true := by
  have hconfig := Config.ofValues_number ⟨.beyondWord⟩
  refine ⟨hconfig, rfl, (reports_iff hconfig _ rfl).1.mpr ?_⟩
  intro value hvalue
  have hnone : sinceReset
      ((empty .beyondWord).transcript [.duration (.int 0), .clear]) = [] := rfl
  rw [hnone] at hvalue
  cases hvalue

theorem report_fails_beyond_word :
    Config.ofValues [.number (.float (.finite false 4882812500000000 11))] =
        .ok ⟨.beyondWord⟩ ∧
      (((empty .beyondWord).run [.duration (.int 0)]).1.step .record).2.succeeded = false := by
  constructor
  · exact Config.ofValues_number ⟨.beyondWord⟩
  · decide +kernel

end Collector

end EasyConnect
