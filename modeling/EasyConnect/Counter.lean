namespace EasyConnect

/-! The scalar counters of the exported log, in the order of its fields. -/

inductive Counter
  | configuratorInitiatorRequests
  | enrolleeInitiatorRequests
  | enrolleeResponderRequests
  | enrolleeResponderSuccess
  | enrolleeSuccess
  | r1CapableResponderDevices
  | r2CapableResponderDevices
  | r2IncompatibleConfiguration
  deriving DecidableEq

namespace Counter

def all : List Counter :=
  [.configuratorInitiatorRequests, .enrolleeInitiatorRequests, .enrolleeResponderRequests,
    .enrolleeResponderSuccess, .enrolleeSuccess, .r1CapableResponderDevices,
    .r2CapableResponderDevices, .r2IncompatibleConfiguration]

def index : Counter → Fin 8
  | .configuratorInitiatorRequests => 0
  | .enrolleeInitiatorRequests => 1
  | .enrolleeResponderRequests => 2
  | .enrolleeResponderSuccess => 3
  | .enrolleeSuccess => 4
  | .r1CapableResponderDevices => 5
  | .r2CapableResponderDevices => 6
  | .r2IncompatibleConfiguration => 7

def ofIndex : Fin 8 → Counter
  | 0 => .configuratorInitiatorRequests
  | 1 => .enrolleeInitiatorRequests
  | 2 => .enrolleeResponderRequests
  | 3 => .enrolleeResponderSuccess
  | 4 => .enrolleeSuccess
  | 5 => .r1CapableResponderDevices
  | 6 => .r2CapableResponderDevices
  | 7 => .r2IncompatibleConfiguration

def name : Counter → String
  | .configuratorInitiatorRequests => "num_dpp_configurator_initiator_requests"
  | .enrolleeInitiatorRequests => "num_dpp_enrollee_initiator_requests"
  | .enrolleeResponderRequests => "num_dpp_enrollee_responder_requests"
  | .enrolleeResponderSuccess => "num_dpp_enrollee_responder_success"
  | .enrolleeSuccess => "num_dpp_enrollee_success"
  | .r1CapableResponderDevices => "num_dpp_r1_capable_enrollee_responder_devices"
  | .r2CapableResponderDevices => "num_dpp_r2_capable_enrollee_responder_devices"
  | .r2IncompatibleConfiguration =>
      "num_dpp_r2_enrollee_responder_incompatible_configuration"

theorem mem_all (counter : Counter) : counter ∈ all := by
  cases counter <;> decide

@[simp] theorem ofIndex_index (counter : Counter) : ofIndex counter.index = counter := by
  cases counter <;> rfl

@[simp] theorem index_ofIndex (i : Fin 8) : (ofIndex i).index = i := by
  match i with
  | 0 | 1 | 2 | 3 | 4 | 5 | 6 | 7 => rfl

end Counter

end EasyConnect
