import EasyConnect.Proofs.Record.Rows

namespace EasyConnect

open Text

/-! What a report in Markdown tells. A blank line ends a table, and no cell of a table has a bar,
so the tables can be told apart and the cells of each. -/

namespace Section

/-- No text of the section breaks its line, and none in its table has a bar. -/
structure IsPlain (part : Section) : Prop where
  title : '\n' ∉ part.title.toList
  nameColumn : IsUnmarked part.nameColumn
  countColumn : IsUnmarked part.countColumn
  names : ∀ entry ∈ part.rows, IsUnmarked entry.1

def entryRow (entry : String × Int) : String :=
  row entry.1 (Numeral.decimal entry.2)

def body (part : Section) : List String :=
  heading part.title :: "" :: row part.nameColumn part.countColumn ::
    rule part.nameColumn part.countColumn :: part.rows.map entryRow

theorem lines_eq (part : Section) : part.lines = "" :: part.body := rfl

def below : List Section → List String
  | [] => []
  | part :: later => part.body ++ "" :: below later

theorem break_not_mem_row {first second : String} (hfirst : '\n' ∉ first.toList)
    (hsecond : '\n' ∉ second.toList) : '\n' ∉ (row first second).toList := by
  have hopen : '\n' ∉ "| ".toList := by decide
  have hbar : '\n' ∉ " | ".toList := by decide
  have hclose : '\n' ∉ " |".toList := by decide
  simp only [row, String.toList_append, List.mem_append, not_or]
  exact ⟨⟨⟨⟨hopen, hfirst⟩, hbar⟩, hsecond⟩, hclose⟩

theorem mem_dashes {column : String} {c : Char} (h : c ∈ (dashes column).toList) : c = '-' := by
  rw [dashes, String.toList_ofList] at h
  exact List.eq_of_mem_replicate h

theorem break_not_mem_rule (first second : String) : '\n' ∉ (rule first second).toList := by
  have hdash (column : String) : '\n' ∉ (dashes column).toList :=
    fun h => absurd (mem_dashes h) (by decide)
  have hbar : '\n' ∉ "|".toList := by decide
  simp only [rule, String.toList_append, List.mem_append, not_or]
  exact ⟨⟨⟨⟨hbar, hdash first⟩, hbar⟩, hdash second⟩, hbar⟩

theorem IsPlain.break_not_mem {part : Section} (h : part.IsPlain) {line : String}
    (hline : line ∈ part.lines) : '\n' ∉ line.toList := by
  have hblank : '\n' ∉ "".toList := List.not_mem_nil
  have hmarks : '\n' ∉ "## ".toList := by decide
  rw [lines_eq, body] at hline
  simp only [List.mem_cons, List.mem_map] at hline
  rcases hline with rfl | rfl | rfl | rfl | rfl | ⟨entry, hentry, rfl⟩
  · exact hblank
  · rw [heading, String.toList_append, List.mem_append]
    exact not_or.mpr ⟨hmarks, h.title⟩
  · exact hblank
  · exact break_not_mem_row (h.nameColumn.not_mem rfl) (h.countColumn.not_mem rfl)
  · exact break_not_mem_rule _ _
  · exact break_not_mem_row ((h.names entry hentry).not_mem rfl)
      ((Numeral.isUnmarked_decimal _).not_mem rfl)

end Section

def Book.title : Book → String
  | .failures => "Failure Codes"
  | .successes => "Configurator Success Codes"
  | .durations => "Operation Time (s)"

theorem Book.title_injective {first second : Book} (h : first.title = second.title) :
    first = second := by
  revert h
  cases first <;> cases second <;> decide

namespace Record

theorem title_part (record : Record) (book : Book) : (record.part book).title = book.title := by
  cases book <;> rfl

theorem isPlain_counterSection (record : Record) : record.counterSection.IsPlain where
  title := (by decide : '\n' ∉ "Counters".toList)
  nameColumn := (by decide : IsUnmarked "Counter")
  countColumn := (by decide : IsUnmarked "Value")
  names := fun _ => isUnmarked_of_mem_namedCounters

theorem isPlain_part (record : Record) (book : Book) : (record.part book).IsPlain where
  title := by
    rw [title_part]
    cases book <;> decide
  nameColumn := by
    cases book with
    | failures => exact (by decide : IsUnmarked "Status")
    | successes => exact (by decide : IsUnmarked "Status")
    | durations => exact (by decide : IsUnmarked "Bucket")
  countColumn := by
    cases book <;> exact (by decide : IsUnmarked "Count")
  names := fun _ => isUnmarked_of_mem_rows

theorem histogramSections_eq_map (record : Record) :
    record.histogramSections =
      (Book.all.filter fun book => !(record.counts book).isEmpty).map record.part := by
  rw [histogramSections_eq, List.filter_map]
  simp only [Function.comp_def, isEmpty_rows_part]

theorem isPlain_of_mem_sections {record : Record} {part : Section}
    (h : part ∈ record.sections) : part.IsPlain := by
  rw [sections, histogramSections_eq_map] at h
  rcases List.mem_cons.mp h with rfl | h
  · exact record.isPlain_counterSection
  · obtain ⟨book, -, rfl⟩ := List.mem_map.mp h
    exact record.isPlain_part book

def tableLines (record : Record) : List String :=
  record.sections.flatMap Section.lines ++ [""]

theorem tableLines_ne_nil (record : Record) : record.tableLines ≠ [] :=
  List.append_ne_nil_of_right_ne_nil _ (List.cons_ne_nil _ _)

theorem splitLines_tableLines (record : Record) :
    splitLines ("\n".intercalate record.tableLines) = record.tableLines := by
  apply splitLines_intercalate record.tableLines_ne_nil
  intro line hline
  rcases List.mem_append.mp hline with h | h
  · obtain ⟨part, hpart, hline⟩ := List.mem_flatMap.mp h
    exact (isPlain_of_mem_sections hpart).break_not_mem hline
  · rw [List.mem_singleton.mp h]
    exact List.not_mem_nil

theorem heading_mem_tableLines_iff {record : Record} {book : Book} :
    Section.heading book.title ∈ record.tableLines ↔ record.counts book ≠ [] := by
  rw [← record.title_part]
  constructor
  · intro h
    rcases List.mem_append.mp h with h | hblank
    · obtain ⟨part, hpart, hheading⟩ := List.mem_flatMap.mp h
      exact hasEntry_of_mem_sections hpart (Section.heading_mem_lines_iff.mp hheading).symm
    · have hopening := Section.opening_heading (record.part book).title
      rw [List.mem_singleton.mp hblank] at hopening
      cases hopening
  · intro h
    apply List.mem_append_left
    exact List.mem_flatMap.mpr ⟨_, part_mem_sections h, Section.heading_mem_lines_iff.mpr rfl⟩

theorem tableLines_of_times {record : Record} (h : record.counts .durations ≠ []) :
    ∃ before, Section.heading Book.durations.title ∉ before ∧
      record.tableLines = before ++ (record.part .durations).lines ++ [""] := by
  have hlast : (Book.all.filter fun book => !(record.counts book).isEmpty) =
      ([.failures, .successes].filter fun book => !(record.counts book).isEmpty) ++
        [.durations] := by
    have hall : Book.all = [.failures, .successes] ++ [.durations] := rfl
    rw [hall, List.filter_append, List.filter_singleton, List.isEmpty_eq_false_iff.mpr h]
    rfl
  refine ⟨record.counterSection.lines ++
    (([.failures, .successes].filter fun book => !(record.counts book).isEmpty).map
      record.part).flatMap Section.lines, ?_, ?_⟩
  · rw [List.mem_append, Section.heading_mem_lines_iff, List.mem_flatMap]
    rintro (hcounters | ⟨part, hpart, hheading⟩)
    · exact absurd hcounters (by decide : Book.durations.title ≠ "Counters")
    · obtain ⟨book, hbook, rfl⟩ := List.mem_map.mp hpart
      have htitle := Section.heading_mem_lines_iff.mp hheading
      rw [title_part] at htitle
      rw [← Book.title_injective htitle] at hbook
      exact absurd (List.mem_filter.mp hbook).1 (by decide)
  · rw [tableLines, sections, histogramSections_eq_map, hlast]
    simp only [List.map_append, List.flatMap_cons, List.flatMap_append, List.map_cons,
      List.map_nil, List.flatMap_nil, List.append_nil, List.append_assoc]

end Record

namespace Report

def preface : String :=
  "# Easy Connect/DPP Metrics\n\n**Timestamp:** "

theorem markdown_eq (report : Report) :
    report.markdown =
      preface ++ report.timestamp ++ "\n" ++ "\n".intercalate report.record.tableLines := by
  have hpreface : "# Easy Connect/DPP Metrics" ++ "\n" ++ "" ++ "\n" ++ "**Timestamp:** " =
      preface := by decide
  have htop : "\n".intercalate
      ["# Easy Connect/DPP Metrics", "", "**Timestamp:** " ++ report.timestamp] =
        preface ++ report.timestamp := by
    rw [String.intercalate_cons_cons, String.intercalate_cons_cons, String.intercalate_singleton]
    simp only [← String.append_assoc, hpreface]
  rw [markdown, markdownLines, List.append_assoc, ← Record.tableLines,
    String.intercalate_append_of_ne_nil (List.cons_ne_nil _ _) report.record.tableLines_ne_nil,
    htop]

end Report

end EasyConnect
