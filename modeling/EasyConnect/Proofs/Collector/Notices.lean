import EasyConnect.Proofs.Collector.History

namespace EasyConnect

/-! What the steps of a collector log: durations that were not counted as given, and resets. -/

namespace Notice

def reads (severity : Severity) (opening : String) (notice : Notice) : Bool :=
  decide (notice.severity = severity) && opening.toList.isPrefixOf notice.message.toList

theorem reads_of_message {notice : Notice} {severity : Severity} {opening rest : String}
    (hseverity : notice.severity = severity) (h : notice.message = opening ++ rest) :
    notice.reads severity opening = true := by
  rw [reads, h, String.toList_append, Bool.and_eq_true, decide_eq_true_iff,
    List.isPrefixOf_iff_prefix]
  exact ⟨hseverity, List.prefix_append _ _⟩

theorem reads_eq_false_of_message {notice : Notice} {severity : Severity}
    {opening other rest : String} (h : notice.message = other ++ rest)
    (hother : opening.toList.isPrefixOf (other.toList ++ rest.toList) = false) :
    notice.reads severity opening = false := by
  rw [reads, h, String.toList_append, hother, Bool.and_false]

theorem reads_empty (severity : Severity) (notice : Notice) :
    notice.reads severity "" = decide (notice.severity = severity) :=
  Bool.and_true _

theorem reads_malformedDuration (value : Value) :
    (malformedDuration value).reads .debug "Treating malformed DPP operation time " = true ∧
      (malformedDuration value).reads .debug "Clamping negative DPP operation time " =
        false :=
  ⟨reads_of_message rfl String.append_assoc, reads_eq_false_of_message String.append_assoc rfl⟩

theorem reads_clampedDuration (millis : Int) :
    (clampedDuration millis).reads .debug "Treating malformed DPP operation time " = false ∧
      (clampedDuration millis).reads .debug "Clamping negative DPP operation time " =
        true :=
  ⟨reads_eq_false_of_message String.append_assoc rfl, reads_of_message rfl String.append_assoc⟩

end Notice

@[simp] theorem Outcome.notices_quiet (answer : Answer) : (quiet answer).notices = [] := rfl

@[simp] theorem Outcome.notices_failed (fault : Fault) : (failed fault).notices = [] := rfl

def logged (severity : Severity) (opening : String) (notices : List Notice) : Nat :=
  notices.countP (Notice.reads severity opening)

namespace Collector

variable {boundaries : Boundaries}

structure IsLogged (taken : Step × Outcome) : Prop where
  failure : ∀ value, taken.1 = .failure value →
    ∀ notice ∈ taken.2.notices, notice.severity = .debug ∧
      notice.message = "Ignoring unrecognized DPP failure code " ++ value.written
  success : ∀ value, taken.1 = .success value →
    ∀ notice ∈ taken.2.notices, notice.severity = .debug ∧
      notice.message = "Ignoring unrecognized DPP success code " ++ value.written
  duration : ∀ value, taken.1 = .duration value →
    taken.2.succeeded = true ∧
      logged .debug "" taken.2.notices =
        (if value.toInt?.any fun millis => decide (0 ≤ millis) then 0 else 1) ∧
      logged .debug "Treating malformed DPP operation time " taken.2.notices =
        (if value.toInt?.isNone then 1 else 0) ∧
      logged .debug "Clamping negative DPP operation time " taken.2.notices =
        if value.toInt?.any fun millis => decide (millis < 0) then 1 else 0
  count : ∀ counter, taken.1 = .count counter → taken.2.notices = []
  reset : logged .info "" taken.2.notices = if Step.emptied taken then 1 else 0
  failed : taken.2.succeeded = false → taken.2.notices = []

theorem logged_millis (value : Value) :
    logged .debug "" value.millis.2 =
        (if value.toInt?.any fun millis => decide (0 ≤ millis) then 0 else 1) ∧
      logged .debug "Treating malformed DPP operation time " value.millis.2 =
        (if value.toInt?.isNone then 1 else 0) ∧
      logged .debug "Clamping negative DPP operation time " value.millis.2 =
        if value.toInt?.any fun millis => decide (millis < 0) then 1 else 0 := by
  unfold Value.millis
  cases value.toInt? with
  | none =>
      obtain ⟨hmalformed, hclamped⟩ := Notice.reads_malformedDuration value
      simp [logged, hmalformed, hclamped, Notice.reads_empty, Notice.severity]
  | some millis =>
      obtain ⟨hmalformed, hclamped⟩ := Notice.reads_clampedDuration millis
      by_cases hnegative : millis < 0
      · simp [logged, hnegative, hmalformed, hclamped, Notice.reads_empty, Notice.severity]
      · simp [logged, hnegative, Int.not_lt.mp hnegative]

/-- A reset that takes effect is logged as such, and nothing else is; what fails logs nothing. -/
def LogsReset (taken : Step × Outcome) : Prop :=
  logged .info "" taken.2.notices = (if Step.emptied taken then 1 else 0) ∧
    (taken.2.succeeded = false → taken.2.notices = [])

theorem logsReset_failed (step : Step) (fault : Fault) :
    LogsReset (step, .failed fault) := by
  simp [LogsReset, logged, Step.emptied]

theorem logsReset_answered {step : Step} (answer : Answer) (notices : List Notice)
    (hinfo : logged .info "" notices = if step.resets then 1 else 0) :
    LogsReset (step, ⟨.ok answer, notices⟩) := by
  simp [LogsReset, Step.emptied, hinfo]

theorem logsReset_reading {collector : Collector boundaries} {step : Step}
    {answer : Record → Outcome} (h : ∀ record, LogsReset (step, answer record)) :
    LogsReset (step, (collector.reading answer).2) := by
  unfold reading
  cases collector.record? with
  | ok record => exact h record
  | error fault => exact logsReset_failed step fault

theorem snd_draining (collector : Collector boundaries) (answer : Record → Outcome) :
    (collector.draining answer).2 = (collector.reading answer).2 := by
  unfold draining reading
  cases collector.record? <;> rfl

theorem logsReset_step (collector : Collector boundaries) (step : Step) :
    LogsReset (step, (collector.step step).2) := by
  cases step with
  | count counter => exact logsReset_answered .done [] rfl
  | success value =>
      rw [Collector.step, success]
      split
      · exact logsReset_failed _ _
      · exact logsReset_answered .done [] rfl
      · exact logsReset_answered .done [.ignoredSuccess value] rfl
  | failure value =>
      rw [Collector.step, failure]
      split
      · exact logsReset_failed _ _
      · exact logsReset_answered .done [] rfl
      · exact logsReset_answered .done [.ignoredFailure value] rfl
  | duration value =>
      apply logsReset_answered .done value.millis.2
      unfold Value.millis
      cases value.toInt? with
      | none => rfl
      | some millis =>
          dsimp only
          split
          · rfl
          · rfl
  | clear => exact logsReset_answered .done [.cleared] rfl
  | drain =>
      rw [Collector.step, snd_draining]
      exact logsReset_reading fun record => logsReset_answered _ [.drained] rfl
  | record => exact logsReset_reading fun record => logsReset_answered _ [] rfl
  | lines => exact logsReset_reading fun record => logsReset_answered _ [] rfl
  | dump refusal =>
      cases refusal with
      | none => exact logsReset_reading fun record => logsReset_answered _ [] rfl
      | some message => exact logsReset_reading fun _ => logsReset_failed _ _
  | boundaries => exact logsReset_answered _ [] rfl
  | report timestamp reset =>
      cases reset with
      | false =>
          exact logsReset_reading fun record => logsReset_answered _ [.reported false] rfl
      | true =>
          rw [Collector.step, snd_draining]
          exact logsReset_reading fun record =>
            logsReset_answered _ [.drained, .reported true] rfl

theorem notices_failure (collector : Collector boundaries) (value : Value) :
    ∀ notice ∈ (collector.failure value).2.notices, notice = .ignoredFailure value := by
  unfold failure
  split
  · exact fun _ hnone => nomatch hnone
  · exact fun _ hnone => nomatch hnone
  · exact fun _ hnotice => List.mem_singleton.mp hnotice

theorem notices_success (collector : Collector boundaries) (value : Value) :
    ∀ notice ∈ (collector.success value).2.notices, notice = .ignoredSuccess value := by
  unfold success
  split
  · exact fun _ hnone => nomatch hnone
  · exact fun _ hnone => nomatch hnone
  · exact fun _ hnotice => List.mem_singleton.mp hnotice

theorem isLogged_step (collector : Collector boundaries) (step : Step) :
    IsLogged (step, (collector.step step).2) := by
  obtain ⟨hreset, hfailed⟩ := logsReset_step collector step
  constructor
  case failure =>
    intro value hstep notice hnotice
    cases hstep
    rw [notices_failure collector value notice hnotice]
    exact ⟨rfl, rfl⟩
  case success =>
    intro value hstep notice hnotice
    cases hstep
    rw [notices_success collector value notice hnotice]
    exact ⟨rfl, rfl⟩
  case duration =>
    intro value hstep
    cases hstep
    exact ⟨rfl, logged_millis value⟩
  case count =>
    intro counter hstep
    cases hstep
    rfl
  case reset => exact hreset
  case failed => exact hfailed

theorem isLogged_run (collector : Collector boundaries) (steps : List Step) :
    ∀ taken ∈ collector.transcript steps, IsLogged taken := by
  induction steps generalizing collector with
  | nil =>
      intro taken htaken
      cases htaken
  | cons step later ih =>
      rw [transcript_cons, List.forall_mem_cons]
      exact ⟨isLogged_step collector step, ih _⟩

end Collector

end EasyConnect
