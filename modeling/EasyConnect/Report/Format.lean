import EasyConnect.Report.Markdown

namespace EasyConnect

/-! The formats that a report is written in. -/

inductive Format
  | json
  | human
  | markdown
  deriving DecidableEq

namespace Format

def all : List Format :=
  [.json, .human, .markdown]

def name : Format → String
  | .json => "JSON"
  | .human => "HUMAN"
  | .markdown => "MARKDOWN"

def keyword : Format → String
  | .json => "json"
  | .human => "human"
  | .markdown => "markdown"

def ofKeyword? (keyword : String) : Option Format :=
  all.find? fun format => format.keyword = keyword

end Format

namespace Report

def standardLayout : Json.Layout :=
  .indented 2

def render (report : Report) : Format → String
  | .json => report.json standardLayout
  | .human => report.human
  | .markdown => report.markdown

def renderAs (report : Report) (keyword : String) : String :=
  report.render ((Format.ofKeyword? keyword).getD .json)

end Report

end EasyConnect
