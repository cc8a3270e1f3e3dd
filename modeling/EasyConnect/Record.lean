import EasyConnect.Counter
import EasyConnect.Json
import EasyConnect.Numeral
import EasyConnect.Status
import EasyConnect.Tally

namespace EasyConnect

/-! The exported log record: a copy of every counter and histogram at one moment. -/

structure StatusCount where
  type : StatusType
  count : Nat
  deriving DecidableEq

structure BucketCount where
  start : Int
  stop : Option Int
  count : Nat
  deriving DecidableEq

structure Record where
  counters : Tally Int 8
  failures : List StatusCount
  successes : List StatusCount
  operationTime : List BucketCount
  deriving DecidableEq

def BucketCount.label (bucket : BucketCount) : String :=
  "[" ++ Numeral.decimal bucket.start ++ "," ++
    (match bucket.stop with
      | some stop => Numeral.decimal stop
      | none => "inf") ++ ")"

def StatusCount.toJson (entry : StatusCount) : Json :=
  .object [("dpp_status_type", .int entry.type.code), ("count", .int entry.count)]

def BucketCount.toJson (bucket : BucketCount) : Json :=
  .object
    [("start", .int bucket.start),
      ("end", match bucket.stop with
        | some stop => .int stop
        | none => .null),
      ("count", .int bucket.count)]

namespace Record

def counter (record : Record) (counter : Counter) : Int :=
  record.counters.get counter.index

def namedCounters (record : Record) : List (String × Int) :=
  Counter.all.map fun counter => (counter.name, record.counter counter)

def toJson (record : Record) : Json :=
  .object
    (record.namedCounters.map (fun (name, n) => (name, .int n)) ++
      [("dpp_failure_code", .list (record.failures.map StatusCount.toJson)),
        ("dpp_configurator_success_code", .list (record.successes.map StatusCount.toJson)),
        ("dpp_operation_time", .list (record.operationTime.map BucketCount.toJson))])

/-- The entries as a mapping in the order of the types; a later entry replaces an earlier one of
the same type. -/
def mapping (entries : List StatusCount) : List (StatusType × Nat) :=
  StatusType.all.filterMap fun type =>
    (entries.reverse.find? fun entry => entry.type = type).map fun entry =>
      (type, entry.count)

def header : String :=
  "---Easy Connect/DPP metrics---"

def footer : String :=
  "---End of Easy Connect/DPP metrics---"

def braced (parts : List String) : String :=
  "\x7b" ++ ", ".intercalate parts ++ "\x7d"

def statusLine (entries : List StatusCount) : String :=
  braced (entries.map fun entry => entry.type.name ++ "=" ++ Numeral.decimal entry.count)

def bucketLine (buckets : List BucketCount) : String :=
  braced (buckets.map fun bucket => bucket.label ++ "=" ++ Numeral.decimal bucket.count)

def hasSample (buckets : List BucketCount) : Bool :=
  buckets.any fun bucket => decide (0 < bucket.count)

/-- The diagnostic dump.  Every counter has a line; a status histogram is listed if it has an
entry, and the operation times are if one of their buckets has a sample. -/
def lines (record : Record) : List String :=
  header ::
    (record.namedCounters.map (fun (name, n) => name ++ "=" ++ Numeral.decimal n) ++
      (if record.failures.isEmpty then []
        else ["dpp_failure_code=", statusLine record.failures]) ++
      (if record.successes.isEmpty then []
        else ["dpp_configurator_success_code=", statusLine record.successes]) ++
      (if hasSample record.operationTime then
          ["dpp_operation_time=", bucketLine record.operationTime]
        else []) ++
      [footer])

def dump (record : Record) : String :=
  "\n".intercalate record.lines ++ "\n"

end Record

end EasyConnect
