import EasyConnect.Collector.Step
import EasyConnect.Histogram.Sparse

namespace EasyConnect

/-! The books of a collector as dictionaries: every counter is there from the start, a status type
or a bucket only once something was counted for it. -/

structure Ledger (boundaries : Boundaries) where
  counters : Dictionary Counter Int
  failures : Dictionary StatusType Int
  successes : Dictionary StatusType Int
  durations : SparseHistogram Int boundaries

def Validated.recorded (model : Model) : Validated α → Except Fault α
  | .accepted entry => .ok entry
  | .refused first rest => .error (.unrecordable model first rest)

def StatusType.members (type : StatusType) (count : Int) : Members :=
  [("dpp_status_type", .number (.member (.statusType type))), ("count", .int count)]

/-- An entry for every type that is present, in the order of the types' codes. -/
def Dictionary.statusCounts (book : Dictionary StatusType Int) : Except Fault (List StatusCount) :=
  (book.sorted StatusType.code).mapM fun entry =>
    (StatusCount.ofMembers (entry.1.members entry.2)).recorded .statusCount

namespace Ledger

variable {boundaries : Boundaries}

def empty (boundaries : Boundaries) : Ledger boundaries where
  counters := Dictionary.empty.fill Counter.all 0
  failures := .empty
  successes := .empty
  durations := .empty boundaries

def clear (ledger : Ledger boundaries) : Ledger boundaries where
  counters := ledger.counters.fill Counter.all 0
  failures := .empty
  successes := .empty
  durations := ledger.durations.clear

/-- The entries are built and checked one book after the other, the counters last. -/
def record? (ledger : Ledger boundaries) : Except Fault Record := do
  let failures ← ledger.failures.statusCounts
  let successes ← ledger.successes.statusCounts
  let operationTime ← ledger.durations.buckets.mapM Bucket.record?
  let counters ← (Record.countersOf
    (ledger.counters.entries.map fun (counter, count) => (counter.name, .int count))).recorded
      .record
  return { counters, failures, successes, operationTime }

def count (ledger : Ledger boundaries) (counter : Counter) : Ledger boundaries :=
  { ledger with counters := ledger.counters.bump counter }

def addSuccess (ledger : Ledger boundaries) (code : SuccessCode) : Ledger boundaries :=
  { ledger with successes := ledger.successes.bump (.success code) }

def addFailure (ledger : Ledger boundaries) (code : FailureCode) : Ledger boundaries :=
  { ledger with failures := ledger.failures.bump (.failure code) }

def addDuration (ledger : Ledger boundaries) (millis : Nat) : Ledger boundaries :=
  { ledger with durations := ledger.durations.increment (.int (millis / 1000 : Nat)) 1 }

def found (ledger : Ledger boundaries) (lookup : Except UnfitKey (Option γ)) (ignored : Notice)
    (add : γ → Ledger boundaries) : Ledger boundaries × Outcome :=
  match lookup with
  | .error key => (ledger, .failed (.unfitKey key))
  | .ok (some code) => (add code, .quiet .done)
  | .ok none => (ledger, ⟨.ok .done, [ignored]⟩)

def answering (ledger next : Ledger boundaries) (answer : Record → Outcome) :
    Ledger boundaries × Outcome :=
  match ledger.record? with
  | .ok record => (next, answer record)
  | .error fault => (ledger, .failed fault)

def step (ledger : Ledger boundaries) : Step → Ledger boundaries × Outcome
  | .count counter => (ledger.count counter, .quiet .done)
  | .success value =>
      ledger.found (SuccessCode.ofValue? value) (.ignoredSuccess value) ledger.addSuccess
  | .failure value =>
      ledger.found (FailureCode.ofValue? value) (.ignoredFailure value) ledger.addFailure
  | .duration value => (ledger.addDuration value.millis.1, ⟨.ok .done, value.millis.2⟩)
  | .clear => (ledger.clear, ⟨.ok .done, [.cleared]⟩)
  | .drain => ledger.answering ledger.clear fun record => ⟨.ok (.record record), [.drained]⟩
  | .record => ledger.answering ledger fun record => .quiet (.record record)
  | .lines => ledger.answering ledger fun record => .quiet (.lines record.lines)
  | .dump none => ledger.answering ledger fun record => .quiet (.text record.dump)
  | .dump (some message) => ledger.answering ledger fun _ => .failed (.sink message)
  | .boundaries => (ledger, .quiet (.boundaries boundaries.values))
  | .report timestamp false =>
      ledger.answering ledger fun record =>
        ⟨.ok (.report { record, timestamp, drained := false }), [.reported false]⟩
  | .report timestamp true =>
      ledger.answering ledger.clear fun record =>
        ⟨.ok (.report { record, timestamp, drained := true }), [.drained, .reported true]⟩

def run (ledger : Ledger boundaries) : List Step → Ledger boundaries × List Outcome
  | [] => (ledger, [])
  | step :: later =>
      let first := ledger.step step
      let rest := run first.1 later
      (rest.1, first.2 :: rest.2)

end Ledger

end EasyConnect
