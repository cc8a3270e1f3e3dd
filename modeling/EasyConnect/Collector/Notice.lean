import EasyConnect.Value

namespace EasyConnect

/-! Notices say what a collector did besides counting: values that were not counted as given, and
resets. -/

inductive Notice
  | ignoredSuccess (value : Value)
  | ignoredFailure (value : Value)
  | malformedDuration (value : Value)
  | clampedDuration (millis : Int)
  | cleared
  | drained
  | reported (reset : Bool)

inductive Severity
  | debug
  | info
  deriving DecidableEq

def Severity.name : Severity → String
  | .debug => "DEBUG"
  | .info => "INFO"

namespace Notice

def severity : Notice → Severity
  | .cleared | .drained => .info
  | _ => .debug

def channel : Notice → String
  | .reported _ => "dpp_metrics.reporter"
  | _ => "dpp_metrics.aggregator"

def message : Notice → String
  | .ignoredSuccess value => "Ignoring unrecognized DPP success code " ++ value.written
  | .ignoredFailure value => "Ignoring unrecognized DPP failure code " ++ value.written
  | .malformedDuration value =>
      "Treating malformed DPP operation time " ++ value.written ++ " as 0s"
  | .clampedDuration millis =>
      "Clamping negative DPP operation time " ++ Numeral.decimal millis ++ "ms to 0s"
  | .cleared => "DPP metrics cleared"
  | .drained => "DPP metrics drained"
  | .reported reset =>
      "Generated DPP metrics report (reset=" ++ (Number.bool reset).text ++ ")"

def line (notice : Notice) : String :=
  notice.severity.name ++ " " ++ notice.channel ++ ": " ++ notice.message

end Notice

end EasyConnect
