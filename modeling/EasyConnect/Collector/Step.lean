import EasyConnect.Collector
import EasyConnect.Report

namespace EasyConnect

/-! Collectors under use: one step after another, each with an answer or a fault, and with the
notices it gave.  A step that fails leaves the collector as it was. -/

inductive Step
  | count (counter : Counter)
  | success (value : Value)
  | failure (value : Value)
  | duration (value : Value)
  | clear
  | drain
  | record
  | lines
  | dump (refusal : Option String)
  | boundaries
  | report (timestamp : String) (reset : Bool)

inductive Answer
  | done
  | record (record : Record)
  | lines (lines : List String)
  | text (text : String)
  | boundaries (values : List Number)
  | report (report : Report)

structure Outcome where
  answer : Except Fault Answer
  notices : List Notice

namespace Outcome

def quiet (answer : Answer) : Outcome :=
  ⟨.ok answer, []⟩

def failed (fault : Fault) : Outcome :=
  ⟨.error fault, []⟩

end Outcome

namespace Collector

variable {boundaries : Boundaries}

def success (collector : Collector boundaries) (value : Value) :
    Collector boundaries × Outcome :=
  match SuccessCode.ofValue? value with
  | .error key => (collector, .failed (.unfitKey key))
  | .ok (some code) => (collector.addSuccess code, .quiet .done)
  | .ok none => (collector, ⟨.ok .done, [.ignoredSuccess value]⟩)

def failure (collector : Collector boundaries) (value : Value) :
    Collector boundaries × Outcome :=
  match FailureCode.ofValue? value with
  | .error key => (collector, .failed (.unfitKey key))
  | .ok (some code) => (collector.addFailure code, .quiet .done)
  | .ok none => (collector, ⟨.ok .done, [.ignoredFailure value]⟩)

def duration (collector : Collector boundaries) (value : Value) :
    Collector boundaries × Outcome :=
  (collector.addDuration value.millis.1, ⟨.ok .done, value.millis.2⟩)

def reading (collector : Collector boundaries) (answer : Record → Outcome) :
    Collector boundaries × Outcome :=
  match collector.record? with
  | .ok record => (collector, answer record)
  | .error fault => (collector, .failed fault)

def draining (collector : Collector boundaries) (answer : Record → Outcome) :
    Collector boundaries × Outcome :=
  match collector.record? with
  | .ok record => (empty boundaries, answer record)
  | .error fault => (collector, .failed fault)

def step (collector : Collector boundaries) : Step → Collector boundaries × Outcome
  | .count counter => (collector.count counter, .quiet .done)
  | .success value => collector.success value
  | .failure value => collector.failure value
  | .duration value => collector.duration value
  | .clear => (empty boundaries, ⟨.ok .done, [.cleared]⟩)
  | .drain => collector.draining fun record => ⟨.ok (.record record), [.drained]⟩
  | .record => collector.reading fun record => .quiet (.record record)
  | .lines => collector.reading fun record => .quiet (.lines record.lines)
  | .dump none => collector.reading fun record => .quiet (.text record.dump)
  | .dump (some message) => collector.reading fun _ => .failed (.sink message)
  | .boundaries => (collector, .quiet (.boundaries boundaries.values))
  | .report timestamp false =>
      collector.reading fun record =>
        ⟨.ok (.report { record, timestamp, drained := false }), [.reported false]⟩
  | .report timestamp true =>
      collector.draining fun record =>
        ⟨.ok (.report { record, timestamp, drained := true }), [.drained, .reported true]⟩

def run (collector : Collector boundaries) : List Step → Collector boundaries × List Outcome
  | [] => (collector, [])
  | step :: later =>
      let first := collector.step step
      let rest := run first.1 later
      (rest.1, first.2 :: rest.2)

@[simp] theorem run_nil (collector : Collector boundaries) :
    collector.run [] = (collector, []) := rfl

@[simp] theorem run_cons
    (collector : Collector boundaries) (step : Step) (later : List Step) :
    collector.run (step :: later) =
      (((collector.step step).1.run later).1,
        (collector.step step).2 :: ((collector.step step).1.run later).2) := rfl

theorem run_append (collector : Collector boundaries) (first second : List Step) :
    collector.run (first ++ second) =
      (((collector.run first).1.run second).1,
        (collector.run first).2 ++ ((collector.run first).1.run second).2) := by
  induction first generalizing collector with
  | nil => rfl
  | cons step later ih => simp [ih]

end Collector

end EasyConnect
