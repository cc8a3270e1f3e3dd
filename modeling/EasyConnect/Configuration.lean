import EasyConnect.Boundaries

namespace EasyConnect

/-! Configuration: boundaries given as values or as text, and what a caller is told when they are
refused. -/

inductive ConfigCause
  | refused (refusal : Boundaries.Refusal)
  | unreadable (raw : String)
  | stated (message : String)

structure ConfigError where
  cause : ConfigCause
  setting : Option String

def bucketsVariable : String :=
  "DPP_METRICS_DURATION_BUCKETS"

def ConfigError.message (error : ConfigError) : String :=
  match error.cause with
  | .refused refusal => refusal.message
  | .unreadable raw =>
      bucketsVariable ++ " must be comma-separated integers, got " ++ Value.quotedText raw
  | .stated message => message

namespace Boundaries

def configure (setting : String) (values : List Value) : Except ConfigError Boundaries :=
  match ofValues? values with
  | .ok boundaries => .ok boundaries
  | .error refusal => .error ⟨.refused refusal, some setting⟩

/-- The fields between commas, without separators around them and without the empty ones. -/
def fields (raw : String) : List (List Char) :=
  ((raw.toList.splitOn ',').map (Text.trim Text.isSeparator)).filter fun field =>
    !field.isEmpty

def read (raw : String) : Except ConfigError Boundaries :=
  match (fields raw).mapM Numeral.read? with
  | none => .error ⟨.unreadable raw, some bucketsVariable⟩
  | some numbers => configure bucketsVariable (numbers.map Value.int)

end Boundaries

structure Config where
  durationBuckets : Boundaries

namespace Config

def standard : Config :=
  ⟨Boundaries.standard⟩

def ofValues (values : List Value) : Except ConfigError Config :=
  match Boundaries.configure "duration_buckets" values with
  | .ok boundaries => .ok ⟨boundaries⟩
  | .error error => .error error

def written (config : Config) : String :=
  "DppMetricsConfig(duration_buckets=" ++ config.durationBuckets.written ++ ")"

end Config

end EasyConnect
