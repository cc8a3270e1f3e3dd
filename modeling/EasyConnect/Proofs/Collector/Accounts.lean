import EasyConnect.Proofs.Collector.Conservation
import EasyConnect.Proofs.Collector.Notices
import EasyConnect.Proofs.Collector.Sums
import EasyConnect.Proofs.Collector.Traces

namespace EasyConnect

/-! Every call that asks to record something is counted or logged, and none is both.  What was
counted is still held, was collected or was cleared. -/

namespace Notice

def ignores (book : Book) : Notice → Bool
  | .ignoredFailure _ => decide (book = .failures)
  | .ignoredSuccess _ => decide (book = .successes)
  | _ => false

theorem reads_ignoredFailure (notice : Notice) :
    notice.reads .debug "Ignoring unrecognized DPP failure code " =
      notice.ignores .failures := by
  cases notice with
  | ignoredFailure value => exact reads_of_message rfl rfl
  | ignoredSuccess value => exact reads_eq_false_of_message rfl rfl
  | malformedDuration value => exact reads_eq_false_of_message String.append_assoc rfl
  | clampedDuration millis => exact reads_eq_false_of_message String.append_assoc rfl
  | cleared => rfl
  | drained => rfl
  | reported reset => cases reset <;> rfl

theorem reads_ignoredSuccess (notice : Notice) :
    notice.reads .debug "Ignoring unrecognized DPP success code " =
      notice.ignores .successes := by
  cases notice with
  | ignoredFailure value => exact reads_eq_false_of_message rfl rfl
  | ignoredSuccess value => exact reads_of_message rfl rfl
  | malformedDuration value => exact reads_eq_false_of_message String.append_assoc rfl
  | clampedDuration millis => exact reads_eq_false_of_message String.append_assoc rfl
  | cleared => rfl
  | drained => rfl
  | reported reset => cases reset <;> rfl

end Notice

/-- The calls that are not counted in this book although they return. -/
def Book.ignored (book : Book) (notices : List Notice) : Nat :=
  match book with
  | .failures => logged .debug "Ignoring unrecognized DPP failure code " notices
  | .successes => logged .debug "Ignoring unrecognized DPP success code " notices
  | .durations => 0

theorem Book.ignored_eq_countP (book : Book) (notices : List Notice) :
    book.ignored notices = notices.countP (Notice.ignores book) := by
  cases book with
  | failures => exact congrArg (List.countP · notices) (funext Notice.reads_ignoredFailure)
  | successes => exact congrArg (List.countP · notices) (funext Notice.reads_ignoredSuccess)
  | durations =>
      have hnone : Notice.ignores .durations = fun _ => false := by
        funext notice
        cases notice <;> rfl
      rw [hnone, List.countP_false]
      rfl

theorem Book.ignored_append (book : Book) (first second : List Notice) :
    book.ignored (first ++ second) = book.ignored first + book.ignored second := by
  simp only [ignored_eq_countP, List.countP_append]

namespace Step

def records (book : Book) : Step → Bool
  | .failure _ => decide (book = .failures)
  | .success _ => decide (book = .successes)
  | .duration _ => decide (book = .durations)
  | _ => false

def clears : Step → Bool
  | .clear => true
  | _ => false

end Step

/-- The calls that asked to record in this book and returned. -/
def returned (book : Book) (taken : List (Step × Outcome)) : Nat :=
  taken.countP fun taken => taken.1.records book && taken.2.succeeded

/-- What the records that were handed out in exchange for a reset have of the book. -/
def handedOut (book : Book) (taken : List (Step × Outcome)) : Nat :=
  ((collected taken).map fun record => record.total book).sum

def notices (taken : List (Step × Outcome)) : List Notice :=
  taken.flatMap fun taken => taken.2.notices

theorem returned_cons (book : Book) (first : Step × Outcome) (later : List (Step × Outcome)) :
    returned book (first :: later) = returned book [first] + returned book later := by
  rw [← List.singleton_append, returned, List.countP_append]
  rfl

theorem handedOut_cons (book : Book) (first : Step × Outcome)
    (later : List (Step × Outcome)) :
    handedOut book (first :: later) = handedOut book [first] + handedOut book later := by
  rw [← List.singleton_append, handedOut, collected, List.filterMap_append, List.map_append,
    List.sum_append]
  rfl

theorem notices_cons (first : Step × Outcome) (later : List (Step × Outcome)) :
    notices (first :: later) = first.2.notices ++ notices later :=
  List.flatMap_cons

namespace Collector

variable {boundaries : Boundaries}

/-- What the clearings of a run have thrown away. -/
def cleared (book : Book) (collector : Collector boundaries) : List Step → Int
  | [] => 0
  | step :: later =>
      (if step.clears then collector.total book else 0) +
        cleared book (collector.step step).1 later

/-- A call that returned is found in the book, in the record handed out, in what was thrown away
or in the notices. -/
def Balances (book : Book) (collector : Collector boundaries) (step : Step) : Prop :=
  (returned book [(step, (collector.step step).2)] : Int) =
    (collector.step step).1.total book - collector.total book +
      handedOut book [(step, (collector.step step).2)] +
      (if step.clears then collector.total book else 0) +
      book.ignored (collector.step step).2.notices

theorem balances_of_idle {book : Book} {collector : Collector boundaries} {step : Step}
    {outcome : Outcome} (hstep : collector.step step = (collector, outcome))
    (hreturned : returned book [(step, outcome)] = 0)
    (hhanded : handedOut book [(step, outcome)] = 0) (hclears : step.clears = false)
    (hignored : book.ignored outcome.notices = 0) : collector.Balances book step := by
  simp only [Balances, hstep, hreturned, hhanded, hclears, hignored]
  simp

theorem balances_of_lookup {γ : Type} {book : Book} {collector : Collector boundaries}
    {step : Step} (found : Except UnfitKey (Option γ)) (added : γ → Collector boundaries)
    (notice : Notice)
    (hunfit : ∀ key, found = .error key →
      collector.step step = (collector, .failed (.unfitKey key)))
    (hfound : ∀ code, found = .ok (some code) →
      collector.step step = (added code, .quiet .done))
    (hlost : found = .ok none → collector.step step = (collector, ⟨.ok .done, [notice]⟩))
    (hadded : ∀ code, (added code).total book =
      collector.total book + if step.records book then 1 else 0)
    (hignores : notice.ignores book = step.records book)
    (hhanded : ∀ outcome, handedOut book [(step, outcome)] = 0)
    (hclears : step.clears = false) : collector.Balances book step := by
  simp only [Balances, hhanded, hclears, returned, Book.ignored_eq_countP,
    List.countP_singleton]
  cases hcases : found with
  | error key => simp [hunfit key hcases]
  | ok found =>
      cases found with
      | none => simp [hlost hcases, hignores]
      | some code => simp [hfound code hcases, hadded]

theorem balances_success (book : Book) (collector : Collector boundaries) (value : Value) :
    collector.Balances book (.success value) := by
  apply balances_of_lookup (SuccessCode.ofValue? value) collector.addSuccess
    (.ignoredSuccess value)
  · intro key hkey
    simp only [step, success, hkey]
  · intro code hcode
    simp only [step, success, hcode]
  · intro hnone
    simp only [step, success, hnone]
  · intro code
    simp [Step.records]
  · rfl
  · exact fun _ => rfl
  · rfl

theorem balances_failure (book : Book) (collector : Collector boundaries) (value : Value) :
    collector.Balances book (.failure value) := by
  apply balances_of_lookup (FailureCode.ofValue? value) collector.addFailure
    (.ignoredFailure value)
  · intro key hkey
    simp only [step, failure, hkey]
  · intro code hcode
    simp only [step, failure, hcode]
  · intro hnone
    simp only [step, failure, hnone]
  · intro code
    simp [Step.records]
  · rfl
  · exact fun _ => rfl
  · rfl

theorem balances_duration (book : Book) (collector : Collector boundaries) (value : Value) :
    collector.Balances book (.duration value) := by
  have hhanded (outcome : Outcome) : handedOut book [(.duration value, outcome)] = 0 := rfl
  have hnotices : value.millis.2.countP (Notice.ignores book) = 0 := by
    unfold Value.millis
    cases value.toInt? with
    | none => simp [Notice.ignores]
    | some millis =>
        dsimp only
        split <;> simp [Notice.ignores]
  simp [Balances, step, duration, hhanded, Book.ignored_eq_countP, returned, Step.clears,
    Step.records, hnotices]

theorem balances_of_reading (book : Book) {collector : Collector boundaries} {step : Step}
    (answer : Record → Outcome) (hstep : collector.step step = collector.reading answer)
    (hignored : ∀ record, book.ignored (answer record).notices = 0)
    (hrecords : step.records book = false) (hcollects : step.collects = false)
    (hclears : step.clears = false) : collector.Balances book step := by
  have hidle (outcome : Outcome) : returned book [(step, outcome)] = 0 ∧
      handedOut book [(step, outcome)] = 0 := by
    simp [returned, handedOut, collected, hrecords, hcollects]
  unfold reading at hstep
  cases hrecord : collector.record? with
  | ok record =>
      rw [hrecord] at hstep
      exact balances_of_idle hstep (hidle _).1 (hidle _).2 hclears (hignored record)
  | error fault =>
      rw [hrecord] at hstep
      exact balances_of_idle hstep (hidle _).1 (hidle _).2 hclears
        (book.ignored_eq_countP [])

theorem balances_of_draining (book : Book) {collector : Collector boundaries} {step : Step}
    (h : collector.IsNonnegative) (answer : Record → Outcome)
    (hstep : collector.step step = collector.draining answer)
    (hignored : ∀ record, book.ignored (answer record).notices = 0)
    (hanswer : ∀ record, (answer record).record? = some record)
    (hrecords : step.records book = false) (hcollects : step.collects = true)
    (hclears : step.clears = false) : collector.Balances book step := by
  have hreturned (outcome : Outcome) : returned book [(step, outcome)] = 0 := by
    simp [returned, hrecords]
  rcases collector.draining_cases answer with ⟨record, hrecord, hdrain⟩ | ⟨fault, _, hdrain⟩
  · rw [hdrain] at hstep
    have hhanded : handedOut book [(step, answer record)] = record.total book := by
      simp [handedOut, collected, hcollects, hanswer]
    simp only [Balances, hstep, hreturned, hhanded, hclears, hignored,
      total_record? h hrecord, total_empty]
    simp
  · rw [hdrain] at hstep
    have hhanded : handedOut book [(step, Outcome.failed fault)] = 0 := by
      simp [handedOut, collected, Outcome.record?, Outcome.failed]
    exact balances_of_idle hstep (hreturned _) hhanded hclears (book.ignored_eq_countP [])

theorem balances (book : Book) {collector : Collector boundaries}
    (h : collector.IsNonnegative) (step : Step) : collector.Balances book step := by
  have hquiet : book.ignored [] = 0 := book.ignored_eq_countP []
  have hinfo (reset : Bool) : book.ignored [.drained] = 0 ∧
      book.ignored [.reported reset] = 0 ∧ book.ignored [.drained, .reported reset] = 0 := by
    simp [Book.ignored_eq_countP, Notice.ignores]
  cases step with
  | count counter =>
      simp [Balances, Collector.step, Outcome.quiet, returned, handedOut, collected,
        Step.collects, Step.records, Step.clears, hquiet]
  | success value => exact balances_success book collector value
  | failure value => exact balances_failure book collector value
  | duration value => exact balances_duration book collector value
  | clear =>
      simp [Balances, Collector.step, returned, handedOut, collected, Step.collects,
        Step.records, Step.clears, Book.ignored_eq_countP, Notice.ignores]
  | drain =>
      exact balances_of_draining book h _ rfl (fun _ => (hinfo true).1) (fun _ => rfl) rfl rfl
        rfl
  | record => exact balances_of_reading book _ rfl (fun _ => hquiet) rfl rfl rfl
  | lines => exact balances_of_reading book _ rfl (fun _ => hquiet) rfl rfl rfl
  | dump refusal =>
      cases refusal with
      | none => exact balances_of_reading book _ rfl (fun _ => hquiet) rfl rfl rfl
      | some message => exact balances_of_reading book _ rfl (fun _ => hquiet) rfl rfl rfl
  | boundaries => exact balances_of_idle rfl rfl rfl rfl hquiet
  | report timestamp reset =>
      cases reset with
      | false =>
          exact balances_of_reading book _ rfl (fun _ => (hinfo false).2.1) rfl rfl rfl
      | true =>
          exact balances_of_draining book h _ rfl (fun _ => (hinfo true).2.2) (fun _ => rfl)
            rfl rfl rfl

theorem balances_run (book : Book) {collector : Collector boundaries}
    (h : collector.IsNonnegative) (steps : List Step) :
    (returned book (collector.transcript steps) : Int) =
      (collector.run steps).1.total book - collector.total book +
        handedOut book (collector.transcript steps) + cleared book collector steps +
        book.ignored (notices (collector.transcript steps)) := by
  induction steps generalizing collector with
  | nil =>
      have hnone : book.ignored (notices []) = 0 := book.ignored_eq_countP []
      simp [returned, handedOut, collected, cleared, hnone]
  | cons step later ih =>
      have hstep := balances book h step
      have hlater := ih (h.step step)
      unfold Balances at hstep
      rw [transcript_cons, returned_cons, handedOut_cons, notices_cons, Book.ignored_append,
        cleared, run_cons]
      push_cast
      omega

def after (config : Config) (steps : List Step) : Collector config.durationBuckets :=
  ((empty config.durationBuckets).run steps).1

/-- Between any two points of a run, the calls that asked to record a failure or a success and
returned are those that were counted and those that were logged as ignored; those that asked to
record a duration are all counted. Resets are logged, and a step that fails does nothing. -/
theorem calls_accounted_for (config : Config) (before steps : List Step) :
    (∀ book : Book,
      (returned book ((after config before).transcript steps) : Int) =
        (((after config before).run steps).1.total book - (after config before).total book) +
          handedOut book ((after config before).transcript steps) +
          cleared book (after config before) steps +
          book.ignored (notices ((after config before).transcript steps))) ∧
      (∀ taken ∈ (after config before).transcript steps, IsLogged taken) ∧
      ∀ step, ((after config before).step step).2.succeeded = false →
        ((after config before).step step).1 = after config before := by
  have hholds : (after config before).Holds
      (sinceReset ((empty config.durationBuckets).transcript before)) :=
    holds_run config.durationBuckets before
  refine ⟨?_, isLogged_run _ steps, fun step => step_of_failed⟩
  intro book
  exact balances_run book hholds.isNonnegative steps

end Collector

end EasyConnect
