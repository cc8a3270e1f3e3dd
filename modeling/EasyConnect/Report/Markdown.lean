import EasyConnect.Report

namespace EasyConnect

/-! Reports in Markdown: a heading, the time stamp and one table for the counters and for each
histogram that has an entry. -/

structure Section where
  title : String
  nameColumn : String
  countColumn : String
  rows : List (String × Int)

namespace Section

def row (first second : String) : String :=
  "| " ++ first ++ " | " ++ second ++ " |"

def dashes (column : String) : String :=
  String.ofList (List.replicate (column.length + 2) '-')

def rule (first second : String) : String :=
  "|" ++ dashes first ++ "|" ++ dashes second ++ "|"

def lines (part : Section) : List String :=
  ["", "## " ++ part.title, "", row part.nameColumn part.countColumn,
      rule part.nameColumn part.countColumn] ++
    part.rows.map fun (name, count) => row name (Numeral.decimal count)

end Section

namespace Record

def counterSection (record : Record) : Section where
  title := "Counters"
  nameColumn := "Counter"
  countColumn := "Value"
  rows := record.namedCounters

def statusSection (title : String) (entries : List StatusCount) : Section where
  title := title
  nameColumn := "Status"
  countColumn := "Count"
  rows := entries.map fun entry => (entry.type.name, entry.count)

def operationTimeSection (buckets : List BucketCount) : Section where
  title := "Operation Time (s)"
  nameColumn := "Bucket"
  countColumn := "Count"
  rows := buckets.map fun bucket => (bucket.label, bucket.count)

def histogramSections (record : Record) : List Section :=
  [statusSection "Failure Codes" record.failures,
      statusSection "Configurator Success Codes" record.successes,
      operationTimeSection record.operationTime].filter fun part => !part.rows.isEmpty

def sections (record : Record) : List Section :=
  record.counterSection :: record.histogramSections

end Record

namespace Report

def markdownLines (report : Report) : List String :=
  ["# Easy Connect/DPP Metrics", "", "**Timestamp:** " ++ report.timestamp] ++
    report.record.sections.flatMap Section.lines ++ [""]

def markdown (report : Report) : String :=
  "\n".intercalate report.markdownLines

end Report

end EasyConnect
