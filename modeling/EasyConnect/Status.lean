namespace EasyConnect

/-! Status codes.  An exchange ends with a callback code: a success code for the configurator or
a failure code.  The exported log names the same outcomes by status types with codes of their
own. -/

inductive SuccessCode
  | configurationSent
  | configurationApplied
  deriving DecidableEq

inductive FailureCode
  | invalidUri
  | authentication
  | notCompatible
  | configuration
  | busy
  | timeout
  | generic
  | notSupported
  | invalidNetwork
  | cannotFindNetwork
  | enrolleeAuthentication
  | enrolleeRejectedConfiguration
  | uriGeneration
  | enrolleeFailedToScanNetworkChannel
  deriving DecidableEq

inductive StatusType
  | unknown
  | success (code : SuccessCode)
  | failure (code : FailureCode)
  deriving DecidableEq

namespace SuccessCode

def all : List SuccessCode :=
  [.configurationSent, .configurationApplied]

def index : SuccessCode → Fin 2
  | .configurationSent => 0
  | .configurationApplied => 1

def code (success : SuccessCode) : Int :=
  success.index.val

def name : SuccessCode → String
  | .configurationSent => "SUCCESS_CONFIGURATION_SENT"
  | .configurationApplied => "SUCCESS_CONFIGURATION_APPLIED"

def ofCode? (n : Int) : Option SuccessCode :=
  all.find? fun success => success.code = n

theorem mem_all (success : SuccessCode) : success ∈ all := by
  cases success <;> decide

theorem ofCode?_code (success : SuccessCode) : ofCode? success.code = some success := by
  cases success <;> rfl

theorem code_injective {first second : SuccessCode} (h : first.code = second.code) :
    first = second := by
  have hsome := ofCode?_code first
  rw [h, ofCode?_code second] at hsome
  exact (Option.some.inj hsome).symm

theorem ofCode?_eq_some_iff {n : Int} {success : SuccessCode} :
    ofCode? n = some success ↔ success.code = n := by
  constructor
  · intro h
    simpa using List.find?_some h
  · rintro rfl
    exact ofCode?_code success

end SuccessCode

namespace FailureCode

def all : List FailureCode :=
  [.invalidUri, .authentication, .notCompatible, .configuration, .busy, .timeout, .generic,
    .notSupported, .invalidNetwork, .cannotFindNetwork, .enrolleeAuthentication,
    .enrolleeRejectedConfiguration, .uriGeneration, .enrolleeFailedToScanNetworkChannel]

def index : FailureCode → Fin 14
  | .invalidUri => 0
  | .authentication => 1
  | .notCompatible => 2
  | .configuration => 3
  | .busy => 4
  | .timeout => 5
  | .generic => 6
  | .notSupported => 7
  | .invalidNetwork => 8
  | .cannotFindNetwork => 9
  | .enrolleeAuthentication => 10
  | .enrolleeRejectedConfiguration => 11
  | .uriGeneration => 12
  | .enrolleeFailedToScanNetworkChannel => 13

def code (failure : FailureCode) : Int :=
  -1 - (failure.index.val : Int)

def name : FailureCode → String
  | .invalidUri => "FAILURE_INVALID_URI"
  | .authentication => "FAILURE_AUTHENTICATION"
  | .notCompatible => "FAILURE_NOT_COMPATIBLE"
  | .configuration => "FAILURE_CONFIGURATION"
  | .busy => "FAILURE_BUSY"
  | .timeout => "FAILURE_TIMEOUT"
  | .generic => "FAILURE_GENERIC"
  | .notSupported => "FAILURE_NOT_SUPPORTED"
  | .invalidNetwork => "FAILURE_INVALID_NETWORK"
  | .cannotFindNetwork => "FAILURE_CANNOT_FIND_NETWORK"
  | .enrolleeAuthentication => "FAILURE_ENROLLEE_AUTHENTICATION"
  | .enrolleeRejectedConfiguration => "FAILURE_ENROLLEE_REJECTED_CONFIGURATION"
  | .uriGeneration => "FAILURE_URI_GENERATION"
  | .enrolleeFailedToScanNetworkChannel =>
      "FAILURE_ENROLLEE_FAILED_TO_SCAN_NETWORK_CHANNEL"

def ofCode? (n : Int) : Option FailureCode :=
  all.find? fun failure => failure.code = n

theorem mem_all (failure : FailureCode) : failure ∈ all := by
  cases failure <;> decide

theorem ofCode?_code (failure : FailureCode) : ofCode? failure.code = some failure := by
  cases failure <;> rfl

theorem code_injective {first second : FailureCode} (h : first.code = second.code) :
    first = second := by
  have hsome := ofCode?_code first
  rw [h, ofCode?_code second] at hsome
  exact (Option.some.inj hsome).symm

theorem ofCode?_eq_some_iff {n : Int} {failure : FailureCode} :
    ofCode? n = some failure ↔ failure.code = n := by
  constructor
  · intro h
    simpa using List.find?_some h
  · rintro rfl
    exact ofCode?_code failure

end FailureCode

namespace StatusType

def all : List StatusType :=
  .unknown :: SuccessCode.all.map .success ++ FailureCode.all.map .failure

/-- The log's own code: zero for the unknown outcome, then the successes, then the failures. -/
def code : StatusType → Nat
  | .unknown => 0
  | .success code => 1 + code.index.val
  | .failure code => 3 + code.index.val

def name : StatusType → String
  | .unknown => "EASY_CONNECT_EVENT_UNKNOWN"
  | .success code => "EASY_CONNECT_EVENT_" ++ code.name
  | .failure code => "EASY_CONNECT_EVENT_" ++ code.name

def ofCode? (n : Int) : Option StatusType :=
  all.find? fun type => (type.code : Int) = n

theorem mem_all (type : StatusType) : type ∈ all := by
  cases type with
  | unknown => exact List.mem_cons_self
  | success code =>
      exact List.mem_cons_of_mem _
        (List.mem_append_left _ (List.mem_map_of_mem (SuccessCode.mem_all code)))
  | failure code =>
      exact List.mem_cons_of_mem _
        (List.mem_append_right _ (List.mem_map_of_mem (FailureCode.mem_all code)))

theorem ofCode?_code (type : StatusType) : ofCode? type.code = some type := by
  rcases type with _ | code | code
  · rfl
  · cases code <;> rfl
  · cases code <;> rfl

theorem code_injective {first second : StatusType} (h : first.code = second.code) :
    first = second := by
  have hsome := ofCode?_code first
  rw [h, ofCode?_code second] at hsome
  exact (Option.some.inj hsome).symm

theorem ofCode?_eq_some_iff {n : Int} {type : StatusType} :
    ofCode? n = some type ↔ (type.code : Int) = n := by
  constructor
  · intro h
    simpa using List.find?_some h
  · rintro rfl
    exact ofCode?_code type

theorem code_le (type : StatusType) : type.code ≤ 16 := by
  rcases type with _ | code | code
  · exact Nat.zero_le _
  · have := code.index.isLt
    simp only [StatusType.code]
    omega
  · have := code.index.isLt
    simp only [StatusType.code]
    omega

end StatusType

end EasyConnect
