import EasyConnect.Collector.Notice
import EasyConnect.Configuration
import EasyConnect.Histogram
import EasyConnect.Recognition
import EasyConnect.Record.Validation

namespace EasyConnect

/-! A collector counts requests, outcomes and operation times until it is reset.  What it holds
can be taken as a record at any moment. -/

structure Collector (boundaries : Boundaries) where
  counters : Tally Int 8
  failures : Tally Int 14
  successes : Tally Int 2
  durations : Histogram Int boundaries

/-- Why a step of a collector fails.  A record cannot be taken when a bucket in use has bounds
that no record may hold. -/
inductive Fault
  | unfitKey (key : UnfitKey)
  | unrecordable (model : Model) (first : Defect) (rest : List Defect)
  | sink (message : String)

/-- A duration in milliseconds, and what is noticed about it.  A value that is no integer counts
as zero, and so does a negative one. -/
def Value.millis (value : Value) : Nat × List Notice :=
  match value.toInt? with
  | none => (0, [.malformedDuration value])
  | some millis =>
      if millis < 0 then (0, [.clampedDuration millis]) else (millis.toNat, [])

def Bucket.members (bucket : Bucket Int) : Members :=
  [("start", .number bucket.start),
    ("end", match bucket.stop with
      | some stop => .number stop
      | none => .null),
    ("count", .int bucket.count)]

def Bucket.record? (bucket : Bucket Int) : Except Fault BucketCount :=
  match BucketCount.ofMembers bucket.members with
  | .accepted entry => .ok entry
  | .refused first rest => .error (.unrecordable .bucketCount first rest)

namespace Collector

variable {boundaries : Boundaries}

def empty (boundaries : Boundaries) : Collector boundaries where
  counters := Tally.empty 8
  failures := Tally.empty 14
  successes := Tally.empty 2
  durations := Histogram.empty boundaries

def count (collector : Collector boundaries) (counter : Counter) : Collector boundaries :=
  { collector with counters := collector.counters.add counter.index 1 }

def addSuccess (collector : Collector boundaries) (code : SuccessCode) :
    Collector boundaries :=
  { collector with successes := collector.successes.add code.index 1 }

def addFailure (collector : Collector boundaries) (code : FailureCode) :
    Collector boundaries :=
  { collector with failures := collector.failures.add code.index 1 }

def addDuration (collector : Collector boundaries) (millis : Nat) : Collector boundaries :=
  { collector with durations := collector.durations.increment (.int (millis / 1000 : Nat)) 1 }

def successCounts (collector : Collector boundaries) : List StatusCount :=
  SuccessCode.all.filterMap fun code =>
    let count := collector.successes.get code.index
    if 0 < count then some ⟨.success code, count.toNat⟩ else none

def failureCounts (collector : Collector boundaries) : List StatusCount :=
  FailureCode.all.filterMap fun code =>
    let count := collector.failures.get code.index
    if 0 < count then some ⟨.failure code, count.toNat⟩ else none

/-- A copy of everything held.  Only types and buckets with a count have an entry. -/
def record? (collector : Collector boundaries) : Except Fault Record :=
  match collector.durations.buckets.mapM Bucket.record? with
  | .ok operationTime =>
      .ok {
        counters := collector.counters
        failures := collector.failureCounts
        successes := collector.successCounts
        operationTime }
  | .error fault => .error fault

end Collector

/-- A collector with nothing counted. It checks the boundaries anew, under their name there. -/
def Config.collector? (config : Config) :
    Except ConfigError (Σ boundaries, Collector boundaries) :=
  match Boundaries.configure "boundaries" (config.durationBuckets.values.map .number) with
  | .ok boundaries => .ok ⟨boundaries, .empty boundaries⟩
  | .error error => .error error

end EasyConnect
