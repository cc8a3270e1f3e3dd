import EasyConnect.Json.Writer
import EasyConnect.Record

namespace EasyConnect

/-! A report is a record with a time stamp, for a machine or for a reader. -/

def reportVersion : String :=
  "1.0"

structure Report where
  record : Record
  version : String := reportVersion
  timestamp : String
  drained : Bool := false
  deriving DecidableEq

namespace Report

def toJson (report : Report) : Json :=
  .object
    [("version", .text report.version),
      ("timestamp", .text report.timestamp),
      ("drained", .bool report.drained),
      ("metrics", report.record.toJson)]

def json (report : Report) (layout : Json.Layout) : String :=
  report.toJson.write layout

def jsonIndented (report : Report) (indent : Option Int) : Except Json.IndentFault String :=
  (Json.Layout.ofIndent indent).map report.json

def human (report : Report) : String :=
  "\n".intercalate (("Timestamp: " ++ report.timestamp) :: report.record.lines)

end Report

end EasyConnect
