import EasyConnect.Proofs.Collector.History

namespace EasyConnect

/-! Steps that fail, that only read, or whose code nobody knows leave no trace: a run is the same
with and without them. -/

namespace Step

def isRead : Step → Bool
  | .record | .lines | .dump _ | .boundaries | .report _ false => true
  | _ => false

def isUnrecognized : Step → Bool
  | .success value => !SuccessCode.all.any fun code => value.equals (.int code.code)
  | .failure value => !FailureCode.all.any fun code => value.equals (.int code.code)
  | _ => false

def leavesTrace (taken : Step × Outcome) : Bool :=
  taken.2.succeeded && !taken.1.isRead && !taken.1.isUnrecognized

variable {boundaries : Boundaries}

theorem isRecording_of_isRead {step : Step} (h : step.isRead = true) :
    step.isRecording = false := by
  cases step <;> first | rfl | cases h

theorem resets_of_isRead {step : Step} (h : step.isRead = true) : step.resets = false := by
  cases step with
  | report timestamp reset =>
      cases reset with
      | false => rfl
      | true => cases h
  | _ => first | rfl | cases h

theorem adds_of_isUnrecognized {step : Step} (h : step.isUnrecognized = true)
    (slot : Slot boundaries) : step.adds slot = false := by
  cases step with
  | success value =>
      have hnone : ∀ code ∈ SuccessCode.all, ¬value.equals (.int code.code) = true := by
        simpa only [isUnrecognized, Bool.not_eq_true', List.any_eq_false] using h
      cases slot with
      | success code => exact Bool.eq_false_iff.mpr (hnone code code.mem_all)
      | _ => rfl
  | failure value =>
      have hnone : ∀ code ∈ FailureCode.all, ¬value.equals (.int code.code) = true := by
        simpa only [isUnrecognized, Bool.not_eq_true', List.any_eq_false] using h
      cases slot with
      | failure code => exact Bool.eq_false_iff.mpr (hnone code code.mem_all)
      | _ => rfl
  | _ => cases h

theorem resets_of_isUnrecognized {step : Step} (h : step.isUnrecognized = true) :
    step.resets = false := by
  cases step <;> first | rfl | cases h

end Step

namespace Collector

variable {boundaries : Boundaries}

theorem succeeded_of_adds (collector : Collector boundaries) {step : Step}
    {slot : Slot boundaries} (h : step.adds slot = true) :
    (collector.step step).2.succeeded = true := by
  cases step with
  | count counter => rfl
  | success value =>
      obtain ⟨code, hcode, -⟩ := Step.adds_success_iff.mp h
      simp only [Collector.step, success, hcode, Outcome.succeeded_quiet]
  | failure value =>
      obtain ⟨code, hcode, -⟩ := Step.adds_failure_iff.mp h
      simp only [Collector.step, failure, hcode, Outcome.succeeded_quiet]
  | duration value => rfl
  | _ => cases (Step.adds_eq_false rfl slot).symm.trans h

theorem step_eq_self {collector : Collector boundaries} {step : Step}
    (hadds : ∀ slot : Slot boundaries, step.adds slot = false)
    (hkeeps : (step.resets && (collector.step step).2.succeeded) = false) :
    (collector.step step).1 = collector := by
  cases collector.effect step with
  | bumped target state adds keeps =>
      have htarget := (adds target).mpr rfl
      rw [hadds target] at htarget
      cases htarget
  | unchanged state adds keeps => exact state
  | emptied state adds resets =>
      rw [hkeeps] at resets
      cases resets

theorem step_of_failed {collector : Collector boundaries} {step : Step}
    (h : (collector.step step).2.succeeded = false) :
    (collector.step step).1 = collector := by
  apply step_eq_self
  · intro slot
    rw [Bool.eq_false_iff]
    intro hadds
    rw [collector.succeeded_of_adds hadds] at h
    cases h
  · rw [h, Bool.and_false]

theorem step_of_traceless {collector : Collector boundaries} {step : Step}
    (h : Step.leavesTrace (step, (collector.step step).2) = false) :
    (collector.step step).1 = collector := by
  cases hsucceeded : (collector.step step).2.succeeded with
  | false => exact step_of_failed hsucceeded
  | true =>
      cases hread : step.isRead with
      | true =>
          apply step_eq_self (Step.adds_eq_false (Step.isRecording_of_isRead hread))
          rw [Step.resets_of_isRead hread, Bool.false_and]
      | false =>
          have hunrecognized : step.isUnrecognized = true := by
            simpa only [Step.leavesTrace, hsucceeded, hread, Bool.true_and, Bool.not_false,
              Bool.not_eq_false'] using h
          apply step_eq_self (Step.adds_of_isUnrecognized hunrecognized)
          rw [Step.resets_of_isUnrecognized hunrecognized, Bool.false_and]

end Collector

/-- Some of the steps that leave no trace are taken out. -/
inductive Pruned : List (Step × Outcome) → List (Step × Outcome) → Prop
  | nil : Pruned [] []
  | keep (taken : Step × Outcome) {later kept : List (Step × Outcome)}
      (rest : Pruned later kept) : Pruned (taken :: later) (taken :: kept)
  | drop {taken : Step × Outcome} {later kept : List (Step × Outcome)}
      (traceless : Step.leavesTrace taken = false) (rest : Pruned later kept) :
      Pruned (taken :: later) kept

theorem Pruned.filter (taken : List (Step × Outcome)) :
    Pruned taken (taken.filter Step.leavesTrace) := by
  induction taken with
  | nil => exact .nil
  | cons first later ih =>
      cases htrace : Step.leavesTrace first with
      | true =>
          rw [List.filter_cons_of_pos htrace]
          exact .keep first ih
      | false =>
          rw [List.filter_cons_of_neg (by rw [htrace]; exact Bool.false_ne_true)]
          exact .drop htrace ih

namespace Collector

variable {boundaries : Boundaries}

theorem run_pruned {collector : Collector boundaries} {steps : List Step}
    {kept : List (Step × Outcome)} (h : Pruned (collector.transcript steps) kept) :
    collector.run (kept.map Prod.fst) = ((collector.run steps).1, kept.map Prod.snd) := by
  induction steps generalizing collector kept with
  | nil =>
      cases h
      rfl
  | cons step later ih =>
      rw [transcript_cons] at h
      cases h with
      | keep taken rest =>
          have hrest := ih rest
          rw [List.map_cons, run_cons, hrest, run_cons, List.map_cons]
      | drop traceless rest =>
          -- The later steps start from the collector that they would have found anyway.
          have hstate := step_of_traceless traceless
          rw [hstate] at rest
          rw [run_cons, hstate]
          exact ih rest

def traced (collector : Collector boundaries) (steps : List Step) : List (Step × Outcome) :=
  (collector.transcript steps).filter Step.leavesTrace

/-- Without the steps that leave no trace every other step has the same outcome and the collector
ends the same. A step that fails, at any moment, leaves the collector as it was. -/
theorem run_without_traceless (collector : Collector boundaries) (steps : List Step) :
    collector.run ((collector.traced steps).map Prod.fst) =
        ((collector.run steps).1, (collector.traced steps).map Prod.snd) ∧
      ∀ step, ((collector.run steps).1.step step).2.succeeded = false →
        (collector.run (steps ++ [step])).1 = (collector.run steps).1 := by
  constructor
  · exact run_pruned (Pruned.filter _)
  · intro step hfailed
    rw [run_concat_fst]
    exact step_of_failed hfailed

end Collector

end EasyConnect
