import EasyConnect.Collector.Step
import EasyConnect.Proofs.Recognition

namespace EasyConnect

/-! What a collector holds, as one count for each of its slots, and what a step does to them. -/

theorem Counter.index_inj {first second : Counter} :
    first.index = second.index ↔ first = second := by
  constructor
  · intro h
    rw [← ofIndex_index first, h, ofIndex_index]
  · exact congrArg index

theorem SuccessCode.index_inj {first second : SuccessCode} :
    first.index = second.index ↔ first = second := by
  constructor
  · intro h
    apply code_injective
    rw [code, h, code]
  · exact congrArg index

theorem FailureCode.index_inj {first second : FailureCode} :
    first.index = second.index ↔ first = second := by
  constructor
  · intro h
    apply code_injective
    rw [code, h, code]
  · exact congrArg index

inductive Slot (boundaries : Boundaries)
  | counter (counter : Counter)
  | failure (code : FailureCode)
  | success (code : SuccessCode)
  | bucket (i : Fin (boundaries.size + 1))
  deriving DecidableEq

/-- The whole seconds of a duration in milliseconds: none if it is negative or no integer. -/
def Value.seconds (value : Value) : Nat :=
  (value.toInt?.getD 0).toNat / 1000

theorem Value.millis_div (value : Value) : value.millis.1 / 1000 = value.seconds := by
  unfold millis seconds
  cases value.toInt? with
  | none => rfl
  | some millis =>
      dsimp only
      split
      · rename_i hneg
        rw [Option.getD_some, Int.toNat_of_nonpos (Int.le_of_lt hneg)]
      · rfl

namespace Step

/-! The steps that ask for a count, by what they count. -/

def counts (counter : Counter) : Step → Bool
  | .count other => decide (other = counter)
  | _ => false

def failsAs (type : StatusType) : Step → Bool
  | .failure value =>
      match type with
      | .failure code => value.equals (.int code.code)
      | _ => false
  | _ => false

def succeedsAs (type : StatusType) : Step → Bool
  | .success value =>
      match type with
      | .success code => value.equals (.int code.code)
      | _ => false
  | _ => false

variable {boundaries : Boundaries}

def adds (slot : Slot boundaries) (step : Step) : Bool :=
  match slot with
  | .counter counter => step.counts counter
  | .failure code => step.failsAs (.failure code)
  | .success code => step.succeedsAs (.success code)
  | .bucket i =>
      match step with
      | .duration value => decide (boundaries.bucketIndex (.int value.seconds) = i)
      | _ => false

theorem adds_success_iff {value : Value} {slot : Slot boundaries} :
    (success value).adds slot = true ↔
      ∃ code, SuccessCode.ofValue? value = .ok (some code) ∧ .success code = slot := by
  cases slot with
  | success code => simp [adds, succeedsAs, SuccessCode.ofValue?_eq_ok_some_iff]
  | counter counter => simp [adds, counts]
  | failure code => simp [adds, failsAs]
  | bucket i => simp [adds]

theorem adds_failure_iff {value : Value} {slot : Slot boundaries} :
    (failure value).adds slot = true ↔
      ∃ code, FailureCode.ofValue? value = .ok (some code) ∧ .failure code = slot := by
  cases slot with
  | failure code => simp [adds, failsAs, FailureCode.ofValue?_eq_ok_some_iff]
  | counter counter => simp [adds, counts]
  | success code => simp [adds, succeedsAs]
  | bucket i => simp [adds]

def isRecording : Step → Bool
  | .count _ | .success _ | .failure _ | .duration _ => true
  | _ => false

theorem adds_eq_false {step : Step} (h : step.isRecording = false) (slot : Slot boundaries) :
    step.adds slot = false := by
  cases step with
  | count counter => cases h
  | success value => cases h
  | failure value => cases h
  | duration value => cases h
  | _ => cases slot <;> rfl

def resets : Step → Bool
  | .clear | .drain | .report _ true => true
  | _ => false

end Step

def Outcome.succeeded (outcome : Outcome) : Bool :=
  match outcome.answer with
  | .ok _ => true
  | .error _ => false

@[simp] theorem Outcome.succeeded_ok (answer : Answer) (notices : List Notice) :
    (Outcome.mk (.ok answer) notices).succeeded = true := rfl

@[simp] theorem Outcome.succeeded_quiet (answer : Answer) :
    (Outcome.quiet answer).succeeded = true := rfl

@[simp] theorem Outcome.succeeded_failed (fault : Fault) :
    (Outcome.failed fault).succeeded = false := rfl

namespace Collector

variable {boundaries : Boundaries}

def held (collector : Collector boundaries) : Slot boundaries → Int
  | .counter counter => collector.counters.get counter.index
  | .failure code => collector.failures.get code.index
  | .success code => collector.successes.get code.index
  | .bucket i => collector.durations.counts.get i

@[simp] theorem held_empty (slot : Slot boundaries) : (empty boundaries).held slot = 0 := by
  cases slot with
  | counter counter => exact Tally.get_empty _
  | failure code => exact Tally.get_empty _
  | success code => exact Tally.get_empty _
  | bucket i => exact Tally.get_uniform _ _

def bump (collector : Collector boundaries) : Slot boundaries → Collector boundaries
  | .counter counter => collector.count counter
  | .failure code => collector.addFailure code
  | .success code => collector.addSuccess code
  | .bucket i => { collector with durations := ⟨collector.durations.counts.add i 1⟩ }

theorem held_bump (collector : Collector boundaries) (target slot : Slot boundaries) :
    (collector.bump target).held slot =
      collector.held slot + if target = slot then 1 else 0 := by
  cases target with
  | counter counter => cases slot <;> simp [held, bump, count, Counter.index_inj]
  | failure code => cases slot <;> simp [held, bump, addFailure, FailureCode.index_inj]
  | success code => cases slot <;> simp [held, bump, addSuccess, SuccessCode.index_inj]
  | bucket i => cases slot <;> simp [held, bump]

/-- All that a step can do: it adds one to a slot, leaves every slot as it was, or empties all of
them. -/
inductive Effect (collector : Collector boundaries) (step : Step) : Prop
  | bumped (target : Slot boundaries)
      (state : (collector.step step).1 = collector.bump target)
      (adds : ∀ slot, step.adds slot = true ↔ target = slot)
      (keeps : step.resets = false)
  | unchanged
      (state : (collector.step step).1 = collector)
      (adds : ∀ slot : Slot boundaries, step.adds slot = false)
      (keeps : (step.resets && (collector.step step).2.succeeded) = false)
  | emptied
      (state : (collector.step step).1 = empty boundaries)
      (adds : ∀ slot : Slot boundaries, step.adds slot = false)
      (resets : (step.resets && (collector.step step).2.succeeded) = true)

theorem effect_of_lookup {γ : Type} {collector : Collector boundaries} {step : Step}
    (found : Except UnfitKey (Option γ)) (slotOf : γ → Slot boundaries)
    (hfound : ∀ code, found = .ok (some code) →
      (collector.step step).1 = collector.bump (slotOf code))
    (hlost : (∀ code, found ≠ .ok (some code)) → (collector.step step).1 = collector)
    (hadds : ∀ slot, step.adds slot = true ↔
      ∃ code, found = .ok (some code) ∧ slotOf code = slot)
    (hkeeps : step.resets = false) : Effect collector step := by
  by_cases hsome : ∃ code, found = .ok (some code)
  · obtain ⟨code, hcode⟩ := hsome
    refine .bumped (slotOf code) (hfound code hcode) ?_ hkeeps
    intro slot
    rw [hadds, hcode]
    simp
  · have hnone : ∀ code, found ≠ .ok (some code) := fun code h => hsome ⟨code, h⟩
    refine .unchanged (hlost hnone) ?_ (by rw [hkeeps, Bool.false_and])
    intro slot
    rw [Bool.eq_false_iff, ne_eq, hadds]
    rintro ⟨code, hcode, -⟩
    exact hnone code hcode

theorem effect_success (collector : Collector boundaries) (value : Value) :
    Effect collector (.success value) := by
  apply effect_of_lookup (SuccessCode.ofValue? value) Slot.success
  · intro code hcode
    simp only [step, success, hcode]
    rfl
  · intro hnone
    simp only [step, success]
    split
    · rfl
    · exact absurd ‹_› (hnone _)
    · rfl
  · exact fun _ => Step.adds_success_iff
  · rfl

theorem effect_failure (collector : Collector boundaries) (value : Value) :
    Effect collector (.failure value) := by
  apply effect_of_lookup (FailureCode.ofValue? value) Slot.failure
  · intro code hcode
    simp only [step, failure, hcode]
    rfl
  · intro hnone
    simp only [step, failure]
    split
    · rfl
    · exact absurd ‹_› (hnone _)
    · rfl
  · exact fun _ => Step.adds_failure_iff
  · rfl

theorem fst_reading (collector : Collector boundaries) (answer : Record → Outcome) :
    (collector.reading answer).1 = collector := by
  unfold reading
  cases collector.record? <;> rfl

theorem draining_cases (collector : Collector boundaries) (answer : Record → Outcome) :
    (∃ record, collector.record? = .ok record ∧
        collector.draining answer = (empty boundaries, answer record)) ∨
      ∃ fault, collector.record? = .error fault ∧
        collector.draining answer = (collector, .failed fault) := by
  unfold draining
  cases collector.record? with
  | ok record => exact .inl ⟨record, rfl, rfl⟩
  | error fault => exact .inr ⟨fault, rfl, rfl⟩

theorem effect_of_reading {collector : Collector boundaries} {step : Step}
    (answer : Record → Outcome) (hstep : collector.step step = collector.reading answer)
    (hrecording : step.isRecording = false) (hkeeps : step.resets = false) :
    Effect collector step := by
  refine .unchanged ?_ (Step.adds_eq_false hrecording) (by rw [hkeeps, Bool.false_and])
  rw [hstep, fst_reading]

theorem effect_of_draining {collector : Collector boundaries} {step : Step}
    (answer : Record → Outcome) (hstep : collector.step step = collector.draining answer)
    (hanswer : ∀ record, (answer record).succeeded = true)
    (hrecording : step.isRecording = false) (hresets : step.resets = true) :
    Effect collector step := by
  rcases collector.draining_cases answer with ⟨record, -, hdrain⟩ | ⟨fault, -, hdrain⟩
  · refine .emptied ?_ (Step.adds_eq_false hrecording) ?_
    · rw [hstep, hdrain]
    · rw [hstep, hdrain, hresets, hanswer, Bool.and_true]
  · refine .unchanged ?_ (Step.adds_eq_false hrecording) ?_
    · rw [hstep, hdrain]
    · rw [hstep, hdrain, Outcome.succeeded_failed, Bool.and_false]

theorem effect (collector : Collector boundaries) (step : Step) : Effect collector step := by
  cases step with
  | count counter =>
      refine .bumped (.counter counter) rfl ?_ rfl
      intro slot
      cases slot <;> simp [Step.adds, Step.counts, Step.failsAs, Step.succeedsAs]
  | success value => exact effect_success collector value
  | failure value => exact effect_failure collector value
  | duration value =>
      refine .bumped (.bucket (boundaries.bucketIndex (.int value.seconds))) ?_ ?_ rfl
      · rw [← value.millis_div]
        rfl
      · intro slot
        cases slot <;> simp [Step.adds, Step.counts, Step.failsAs, Step.succeedsAs]
  | clear => exact .emptied rfl (Step.adds_eq_false rfl) rfl
  | drain => exact effect_of_draining _ rfl (fun _ => rfl) rfl rfl
  | record => exact effect_of_reading _ rfl rfl rfl
  | lines => exact effect_of_reading _ rfl rfl rfl
  | dump refusal =>
      cases refusal with
      | none => exact effect_of_reading _ rfl rfl rfl
      | some message => exact effect_of_reading _ rfl rfl rfl
  | boundaries => exact .unchanged rfl (Step.adds_eq_false rfl) rfl
  | report timestamp reset =>
      cases reset with
      | false => exact effect_of_reading _ rfl rfl rfl
      | true => exact effect_of_draining _ rfl (fun _ => rfl) rfl rfl

theorem held_step (collector : Collector boundaries) (step : Step) (slot : Slot boundaries) :
    (collector.step step).1.held slot =
      if step.resets && (collector.step step).2.succeeded then 0
      else collector.held slot + if step.adds slot then 1 else 0 := by
  cases collector.effect step with
  | bumped target state adds keeps =>
      simp only [keeps, Bool.false_and, Bool.false_eq_true, if_false, state, held_bump, adds]
  | unchanged state adds keeps =>
      simp only [keeps, Bool.false_eq_true, if_false, state, adds, Int.add_zero]
  | emptied state adds resets =>
      simp only [resets, if_true, state, held_empty]

end Collector

end EasyConnect
