import EasyConnect.Proofs.Collector.Sums
import EasyConnect.Report.Format

namespace EasyConnect

/-! Which histograms the texts of a report list. A dump lists the operation times if one of their
buckets has a sample, but a status histogram as soon as it has an entry, and in Markdown every
histogram is listed by its entries. The texts part where a record has entries without a sample;
a record that was taken from a collector has none. -/

namespace Book

def all : List Book :=
  [.failures, .successes, .durations]

theorem mem_all (book : Book) : book ∈ all := by
  cases book <;> decide

def heading : Book → String
  | .failures => "dpp_failure_code="
  | .successes => "dpp_configurator_success_code="
  | .durations => "dpp_operation_time="

theorem heading_injective {first second : Book} (h : first.heading = second.heading) :
    first = second := by
  revert h
  cases first <;> cases second <;> decide

end Book

/-- The character that a line begins with tells what the line is. -/
def opening (line : String) : Option Char :=
  line.toList.head?

theorem opening_append {first : String} {c : Char} (h : opening first = some c)
    (rest : String) : opening (first ++ rest) = some c := by
  unfold opening at h ⊢
  rw [String.toList_append, List.head?_append, h, Option.some_or]

theorem Counter.opening_name (counter : Counter) : opening counter.name = some 'n' := by
  cases counter <;> decide

theorem Book.opening_heading (book : Book) : opening book.heading = some 'd' := by
  cases book <;> decide

namespace Record

def HasSample (record : Record) (book : Book) : Prop :=
  ∃ count ∈ record.counts book, 0 < count

theorem HasSample.hasEntry {record : Record} {book : Book} (h : record.HasSample book) :
    record.counts book ≠ [] := by
  obtain ⟨count, hcount, -⟩ := h
  exact List.ne_nil_of_mem hcount

def body (record : Record) : Book → String
  | .failures => statusLine record.failures
  | .successes => statusLine record.successes
  | .durations => bucketLine record.operationTime

theorem opening_body (record : Record) (book : Book) :
    opening (record.body book) = some '\x7b' := by
  have hbraced (parts : List String) : opening (braced parts) = some '\x7b' := by
    rw [braced, String.append_assoc]
    exact opening_append rfl _
  cases book with
  | failures => exact hbraced _
  | successes => exact hbraced _
  | durations => exact hbraced _

def part (record : Record) : Book → Section
  | .failures => statusSection "Failure Codes" record.failures
  | .successes => statusSection "Configurator Success Codes" record.successes
  | .durations => operationTimeSection record.operationTime

theorem isEmpty_rows_part (record : Record) (book : Book) :
    (record.part book).rows.isEmpty = (record.counts book).isEmpty := by
  cases book <;> simp only [part, counts, statusSection, operationTimeSection, List.isEmpty_map]

/-! Dumps -/

def isDumpedBook (record : Record) : Book → Bool
  | .failures => !record.failures.isEmpty
  | .successes => !record.successes.isEmpty
  | .durations => hasSample record.operationTime

theorem isDumpedBook_iff {record : Record} {book : Book} :
    record.isDumpedBook book = true ↔
      record.counts book ≠ [] ∧ (book = .durations → record.HasSample book) := by
  cases book with
  | failures => simp [isDumpedBook, counts]
  | successes => simp [isDumpedBook, counts]
  | durations =>
      have hsample : record.isDumpedBook .durations = true ↔ record.HasSample .durations := by
        simp [isDumpedBook, hasSample, HasSample, counts]
      rw [hsample]
      exact ⟨fun h => ⟨h.hasEntry, fun _ => h⟩, fun h => h.2 rfl⟩

def dumpedBook (record : Record) (book : Book) : List String :=
  if record.isDumpedBook book then [book.heading, record.body book] else []

theorem lines_eq (record : Record) :
    record.lines =
      header ::
        (record.namedCounters.map (fun (name, n) => name ++ "=" ++ Numeral.decimal n) ++
          Book.all.flatMap record.dumpedBook ++ [footer]) := by
  have hfailures : record.dumpedBook .failures =
      if record.failures.isEmpty then []
      else ["dpp_failure_code=", statusLine record.failures] := by
    cases hempty : record.failures.isEmpty <;>
      simp [dumpedBook, isDumpedBook, hempty, Book.heading, body]
  have hsuccesses : record.dumpedBook .successes =
      if record.successes.isEmpty then []
      else ["dpp_configurator_success_code=", statusLine record.successes] := by
    cases hempty : record.successes.isEmpty <;>
      simp [dumpedBook, isDumpedBook, hempty, Book.heading, body]
  have hdurations : record.dumpedBook .durations =
      if hasSample record.operationTime then
        ["dpp_operation_time=", bucketLine record.operationTime]
      else [] := rfl
  simp only [lines, Book.all, List.flatMap_cons, List.flatMap_nil, List.append_nil,
    List.append_assoc, hfailures, hsuccesses, hdurations]

/-- The dump lists the histogram: its heading with the body below. -/
def IsDumped (record : Record) (book : Book) : Prop :=
  [book.heading, record.body book] <:+: record.lines

theorem isDumped_of_isDumpedBook {record : Record} {book : Book}
    (h : record.isDumpedBook book = true) : record.IsDumped book := by
  have hlisted : record.dumpedBook book = [book.heading, record.body book] := if_pos h
  have hall : record.dumpedBook book <:+: Book.all.flatMap record.dumpedBook :=
    List.infix_of_mem_flatten (List.mem_map_of_mem (Book.mem_all book))
  rw [IsDumped, lines_eq, ← hlisted]
  exact (hall.trans (List.infix_append _ _ _)).trans (List.suffix_cons _ _).isInfix

theorem heading_mem_dumpedBook {record : Record} {book other : Book}
    (h : book.heading ∈ record.dumpedBook other) :
    book = other ∧ record.isDumpedBook other = true := by
  unfold dumpedBook at h
  split at h
  · refine ⟨?_, ‹_›⟩
    rcases List.mem_pair.mp h with hheading | hbody
    · exact Book.heading_injective hheading
    · have hopening := book.opening_heading
      rw [hbody, opening_body] at hopening
      exact absurd hopening (by decide)
  · cases h

theorem isDumpedBook_of_mem_lines {record : Record} {book : Book}
    (h : book.heading ∈ record.lines) : record.isDumpedBook book = true := by
  rw [lines_eq] at h
  have hopening := book.opening_heading
  rcases List.mem_cons.mp h with hheader | h
  · rw [hheader] at hopening
    exact absurd hopening (by decide)
  rcases List.mem_append.mp h with h | hfooter
  · rcases List.mem_append.mp h with hcounter | hbook
    · rw [namedCounters, List.map_map] at hcounter
      obtain ⟨counter, -, hline⟩ := List.mem_map.mp hcounter
      dsimp only [Function.comp_apply] at hline
      rw [← hline, String.append_assoc, opening_append counter.opening_name] at hopening
      exact absurd hopening (by decide)
    · obtain ⟨other, -, hother⟩ := List.mem_flatMap.mp hbook
      obtain ⟨rfl, hdumped⟩ := heading_mem_dumpedBook hother
      exact hdumped
  · rw [List.mem_singleton.mp hfooter] at hopening
    exact absurd hopening (by decide)

theorem IsDumped.heading_mem {record : Record} {book : Book} (h : record.IsDumped book) :
    book.heading ∈ record.lines :=
  h.subset List.mem_cons_self

theorem isDumped_iff {record : Record} {book : Book} :
    record.IsDumped book ↔
      record.counts book ≠ [] ∧ (book = .durations → record.HasSample book) := by
  rw [← isDumpedBook_iff]
  exact ⟨fun h => isDumpedBook_of_mem_lines h.heading_mem, isDumped_of_isDumpedBook⟩

end Record

/-! Markdown -/

namespace Section

def heading (title : String) : String :=
  "## " ++ title

theorem opening_heading (title : String) : opening (heading title) = some '#' :=
  opening_append rfl title

theorem heading_injective {first second : String} (h : heading first = heading second) :
    first = second :=
  String.append_right_inj "## " |>.mp h

theorem opening_row (first second : String) : opening (row first second) = some '|' := by
  simp only [row, String.append_assoc]
  exact opening_append rfl _

theorem opening_rule (first second : String) : opening (rule first second) = some '|' := by
  simp only [rule, String.append_assoc]
  exact opening_append rfl _

theorem heading_mem_lines_iff {part : Section} {title : String} :
    heading title ∈ part.lines ↔ title = part.title := by
  constructor
  · intro h
    have hopening := opening_heading title
    rcases List.mem_append.mp h with htop | hrows
    · simp only [List.mem_cons, List.not_mem_nil, or_false] at htop
      rcases htop with hblank | hheading | hblank | hcolumns | hdashes
      · rw [hblank] at hopening
        cases hopening
      · exact heading_injective hheading
      · rw [hblank] at hopening
        cases hopening
      · rw [hcolumns, opening_row] at hopening
        exact absurd hopening (by decide)
      · rw [hdashes, opening_rule] at hopening
        exact absurd hopening (by decide)
    · obtain ⟨⟨name, count⟩, -, hline⟩ := List.mem_map.mp hrows
      dsimp only at hline
      rw [← hline, opening_row] at hopening
      exact absurd hopening (by decide)
  · rintro rfl
    exact List.mem_append_left _ (List.mem_cons_of_mem _ List.mem_cons_self)

end Section

namespace Record

theorem histogramSections_eq (record : Record) :
    record.histogramSections =
      (Book.all.map record.part).filter fun part => !part.rows.isEmpty := rfl

theorem part_mem_sections {record : Record} {book : Book} (h : record.counts book ≠ []) :
    record.part book ∈ record.sections := by
  rw [sections, histogramSections_eq]
  apply List.mem_cons_of_mem
  apply List.mem_filter.mpr
  refine ⟨List.mem_map_of_mem book.mem_all, ?_⟩
  rw [isEmpty_rows_part, List.isEmpty_eq_false_iff.mpr h]
  rfl

theorem hasEntry_of_mem_sections {record : Record} {book : Book} {part : Section}
    (hpart : part ∈ record.sections) (htitle : part.title = (record.part book).title) :
    record.counts book ≠ [] := by
  rcases List.mem_cons.mp hpart with rfl | hpart
  · exfalso
    revert htitle
    cases book <;> simp [counterSection, Record.part, statusSection, operationTimeSection]
  · rw [histogramSections_eq, List.mem_filter, List.mem_map] at hpart
    obtain ⟨⟨other, -, rfl⟩, hrows⟩ := hpart
    have hbook : other = book := by
      revert htitle
      cases other <;> cases book <;> simp [Record.part, statusSection, operationTimeSection]
    rw [hbook, isEmpty_rows_part, Bool.not_eq_true', List.isEmpty_eq_false_iff] at hrows
    exact hrows

end Record

namespace Report

def IsTabled (report : Report) (book : Book) : Prop :=
  (report.record.part book).lines <:+: report.markdownLines

theorem heading_mem_markdownLines_iff {report : Report} {title : String} :
    Section.heading title ∈ report.markdownLines ↔
      ∃ part ∈ report.record.sections, part.title = title := by
  have hopening := Section.opening_heading title
  have hbody : Section.heading title ∈ report.record.sections.flatMap Section.lines ↔
      ∃ part ∈ report.record.sections, part.title = title := by
    simp only [List.mem_flatMap, Section.heading_mem_lines_iff, eq_comm]
  rw [← hbody]
  constructor
  · intro h
    rcases List.mem_append.mp h with h | hblank
    · rcases List.mem_append.mp h with htop | hsections
      · simp only [List.mem_cons, List.not_mem_nil, or_false] at htop
        rcases htop with hname | hblank | htime
        · have hsecond : (Section.heading title).toList[1]? = some '#' := by
            rw [Section.heading, String.toList_append]
            rfl
          rw [hname] at hsecond
          exact absurd hsecond (by decide)
        · rw [hblank] at hopening
          cases hopening
        · rw [htime, opening_append rfl] at hopening
          exact absurd hopening (by decide)
      · exact hsections
    · rw [List.mem_singleton.mp hblank] at hopening
      cases hopening
  · intro h
    exact List.mem_append_left _ (List.mem_append_right _ h)

theorem isTabled_iff {report : Report} {book : Book} :
    report.IsTabled book ↔ report.record.counts book ≠ [] := by
  constructor
  · intro h
    have hheading : Section.heading (report.record.part book).title ∈ report.markdownLines :=
      h.subset (Section.heading_mem_lines_iff.mpr rfl)
    obtain ⟨part, hpart, htitle⟩ := heading_mem_markdownLines_iff.mp hheading
    exact Record.hasEntry_of_mem_sections hpart htitle
  · intro h
    have hsections : (report.record.part book).lines <:+:
        report.record.sections.flatMap Section.lines :=
      List.infix_of_mem_flatten (List.mem_map_of_mem (Record.part_mem_sections h))
    exact hsections.trans (List.infix_append _ _ _)

theorem lists_samples_iff {report : Report} {book : Book} :
    ((report.record.IsDumped book ↔ report.record.HasSample book) ∧
        (report.IsTabled book ↔ report.record.HasSample book)) ↔
      (report.record.counts book ≠ [] → report.record.HasSample book) := by
  rw [Record.isDumped_iff, isTabled_iff]
  constructor
  · rintro ⟨-, htabled⟩
    exact htabled.mp
  · intro hsample
    refine ⟨⟨fun h => hsample h.1, fun h => ⟨h.hasEntry, fun _ => h⟩⟩, ?_⟩
    exact ⟨hsample, Record.HasSample.hasEntry⟩

/-- What the texts of a report list: a dump goes by the samples of the operation times and by the
entries of the others, Markdown by the entries of all three. Both list what has a sample and
nothing else just where no histogram has entries without one. -/
theorem lists_histogram_iff (report : Report) (book : Book) :
    (report.record.IsDumped book ↔
        report.record.counts book ≠ [] ∧
          (book = .durations → report.record.HasSample book)) ∧
      (report.IsTabled book ↔ report.record.counts book ≠ []) ∧
      (((report.record.IsDumped book ↔ report.record.HasSample book) ∧
          (report.IsTabled book ↔ report.record.HasSample book)) ↔
        (report.record.counts book ≠ [] → report.record.HasSample book)) :=
  ⟨Record.isDumped_iff, isTabled_iff, lists_samples_iff⟩

/-- A status with count zero is listed in a dump, and a bucket with count zero in Markdown. -/
theorem lists_without_sample :
    ∃ record,
      Record.ofMembers
          [("dpp_failure_code",
              .list [.object [("dpp_status_type", .int 3), ("count", .int 0)]]),
            ("dpp_operation_time", .list [.object [("start", .int 0), ("count", .int 0)]])] =
        .accepted record ∧
      record.IsDumped .failures ∧ ¬record.HasSample .failures ∧
      ¬record.IsDumped .durations ∧ ¬record.HasSample .durations ∧
      ∀ timestamp, IsTabled { record, timestamp } .durations := by
  refine ⟨⟨Tally.empty 8, [⟨.failure .invalidUri, 0⟩], [], [⟨0, none, 0⟩]⟩, rfl, ?_⟩
  have hsample (book : Book) : ¬Record.HasSample
      ⟨Tally.empty 8, [⟨.failure .invalidUri, 0⟩], [], [⟨0, none, 0⟩]⟩ book := by
    cases book <;> simp [Record.HasSample, Record.counts]
  refine ⟨?_, hsample .failures, ?_, hsample .durations, ?_⟩
  · exact Record.isDumped_iff.mpr ⟨by simp [Record.counts], fun h => absurd h (by decide)⟩
  · exact fun h => hsample .durations ((Record.isDumped_iff.mp h).2 rfl)
  · exact fun _ => isTabled_iff.mpr (by simp [Record.counts])

end Report

namespace Collector

variable {boundaries : Boundaries} {collector : Collector boundaries}

theorem hasSample_of_hasEntry {record : Record} (hrecord : collector.record? = .ok record)
    {book : Book} (hentry : record.counts book ≠ []) : record.HasSample book := by
  obtain ⟨count, hcount⟩ := List.exists_mem_of_ne_nil _ hentry
  refine ⟨count, hcount, ?_⟩
  rw [counts_record? hrecord, List.mem_map] at hcount
  obtain ⟨slot, hslot, rfl⟩ := hcount
  have hpositive := of_decide_eq_true (List.mem_filter.mp hslot).2
  omega

theorem lists_samples {report : Report} (hrecord : collector.record? = .ok report.record)
    (book : Book) :
    (report.record.IsDumped book ↔ report.record.HasSample book) ∧
      (report.IsTabled book ↔ report.record.HasSample book) :=
  Report.lists_samples_iff.mpr (hasSample_of_hasEntry hrecord)

end Collector

end EasyConnect
