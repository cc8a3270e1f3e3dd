import EasyConnect.Proofs.Histogram
import EasyConnect.Proofs.Record.Dump
import EasyConnect.Proofs.Report.Markdown

namespace EasyConnect

/-! What is shown of operation times, once as a histogram by itself and once by way of a record.
Either way the buckets are the same and so are the texts. -/

structure BucketCount.Copies (entry : BucketCount) (bucket : Bucket Amount) : Prop where
  start : bucket.start = .int entry.start
  stop : bucket.stop = entry.stop.map .int
  count : bucket.count = .whole entry.count
  label : bucket.label = entry.label

theorem BucketCount.copies_of_span (span : Span) {n : Int} (h : 0 ≤ n) :
    BucketCount.Copies ⟨span.start, span.stop, n.toNat⟩ (span.bucket n) := by
  obtain ⟨start, stop⟩ := span
  refine ⟨rfl, rfl, ?_, ?_⟩
  · rw [Int.toNat_of_nonneg h]
    rfl
  · cases stop <;> rfl

theorem BucketCount.Copies.count_text {entry : BucketCount} {bucket : Bucket Amount}
    (h : entry.Copies bucket) :
    (Count.number bucket.count).text = Numeral.decimal entry.count := by
  rw [h.count]
  rfl

theorem BucketCount.map_eq_of_copies {β : Type} {entries : List BucketCount}
    {buckets : List (Bucket Amount)} {f : BucketCount → β} {g : Bucket Amount → β}
    (h : List.Forall₂ BucketCount.Copies entries buckets)
    (hread : ∀ entry bucket, entry.Copies bucket → f entry = g bucket) :
    entries.map f = buckets.map g := by
  induction h with
  | nil => rfl
  | cons hfirst _ ih => rw [List.map_cons, List.map_cons, hread _ _ hfirst, ih]

namespace Collector

variable {boundaries : Boundaries}

theorem durations_run (collector : Collector boundaries) (values : List Value) :
    (collector.run (values.map Step.duration)).1.durations =
      (values.map fun value => Histogram.Change.increment ⟨value.seconds, 1⟩).foldl
        Histogram.changeWhole collector.durations := by
  induction values generalizing collector with
  | nil => rfl
  | cons value later ih =>
      have hstep : (collector.step (.duration value)).1.durations =
          collector.durations.changeWhole (.increment ⟨value.seconds, 1⟩) := by
        rw [← value.millis_div]
        rfl
      rw [List.map_cons, run_cons, ih, hstep]
      rfl

theorem after_seconds (boundaries : Boundaries) (values : List Value) :
    Histogram.after boundaries
        (values.map fun value => .increment ⟨value.seconds, 1⟩) =
      .ok ((empty boundaries).run (values.map Step.duration)).1.durations.ofWhole := by
  rw [Histogram.after_eq_ok, durations_run]
  rfl

theorem copies_operationTime {whole : WholeBoundaries}
    (collector : Collector whole.toBoundaries) :
    List.Forall₂ BucketCount.Copies collector.operationTime
      collector.durations.ofWhole.buckets := by
  rw [operationTime, Histogram.buckets_eq_map]
  simp only [Histogram.isPositive_ofWhole, List.forall₂_map_left_iff, List.forall₂_map_right_iff,
    List.forall₂_same]
  intro i hi
  have hcount := of_decide_eq_true (List.mem_filter.mp hi).2
  rw [Histogram.bucketAt_ofWhole]
  exact BucketCount.copies_of_span _ (Int.le_of_lt hcount)

end Collector

/-- The record shows of the operation times what the histogram does: the same entries, in a dump
the text of the histogram, and in Markdown a row for each of its buckets. -/
structure Record.ShowsTimesOf {boundaries : Boundaries} (record : Record)
    (histogram : Histogram Amount boundaries) : Prop where
  entries : List.Forall₂ BucketCount.Copies record.operationTime histogram.buckets
  listed : "dpp_operation_time=" ∈ record.lines ↔ 0 < histogram.numNonEmpty
  follows : ∀ before after, record.lines = before ++ "dpp_operation_time=" :: after →
    ∃ later, after = histogram.text :: later
  tabled : ∀ report : Report, report.record = record →
    ∃ text, report.markdown = "# Easy Connect/DPP Metrics\n\n**Timestamp:** " ++
        report.timestamp ++ "\n" ++ text ∧
      ("## Operation Time (s)" ∈ Text.splitLines text ↔ 0 < histogram.numNonEmpty) ∧
      (0 < histogram.numNonEmpty →
        ∃ before, "## Operation Time (s)" ∉ before ∧ Text.splitLines text =
          before ++ ["", "## Operation Time (s)", "", "| Bucket | Count |",
            "|--------|-------|"] ++
          histogram.buckets.map (fun bucket =>
            "| " ++ bucket.label ++ " | " ++ (Count.number bucket.count).text ++ " |") ++ [""])

namespace Record

variable {boundaries : Boundaries} {record : Record} {histogram : Histogram Amount boundaries}

theorem body_of_copies
    (h : List.Forall₂ BucketCount.Copies record.operationTime histogram.buckets) :
    record.body .durations = histogram.text := by
  have hentry (entry : BucketCount) (bucket : Bucket Amount) (hcopies : entry.Copies bucket) :
      entry.label ++ "=" ++ Numeral.decimal entry.count =
        bucket.label ++ "=" ++ (Count.number bucket.count).text := by
    rw [hcopies.label, hcopies.count_text]
  rw [body, bucketLine, BucketCount.map_eq_of_copies h hentry]
  rfl

theorem lines_part_of_copies
    (h : List.Forall₂ BucketCount.Copies record.operationTime histogram.buckets) :
    (record.part .durations).lines =
      ["", "## Operation Time (s)", "", "| Bucket | Count |", "|--------|-------|"] ++
        histogram.buckets.map fun bucket =>
          "| " ++ bucket.label ++ " | " ++ (Count.number bucket.count).text ++ " |" := by
  have hrow (entry : BucketCount) (bucket : Bucket Amount) (hcopies : entry.Copies bucket) :
      "| " ++ entry.label ++ " | " ++ Numeral.decimal entry.count ++ " |" =
        "| " ++ bucket.label ++ " | " ++ (Count.number bucket.count).text ++ " |" := by
    rw [hcopies.label, hcopies.count_text]
  have htop : ["", "## " ++ "Operation Time (s)", "", Section.row "Bucket" "Count",
      Section.rule "Bucket" "Count"] =
        ["", "## Operation Time (s)", "", "| Bucket | Count |", "|--------|-------|"] := by
    decide
  rw [part, operationTimeSection, Section.lines, List.map_map, htop,
    ← BucketCount.map_eq_of_copies h hrow]
  rfl

theorem showsTimesOf
    (h : List.Forall₂ BucketCount.Copies record.operationTime histogram.buckets)
    (hsample : record.counts .durations ≠ [] → record.HasSample .durations) :
    record.ShowsTimesOf histogram := by
  have hlength : histogram.numNonEmpty = (record.counts .durations).length := by
    rw [histogram.numNonEmpty_eq_length, ← h.length_eq, counts, List.length_map]
  have hpositive : record.counts .durations ≠ [] ↔ 0 < histogram.numNonEmpty := by
    rw [hlength, List.length_pos_iff]
  constructor
  case entries => exact h
  case listed =>
    rw [← hpositive]
    constructor
    · intro hmem
      have hheading : Book.durations.heading ∈ record.lines := hmem
      exact (isDumpedBook_iff.mp (isDumpedBook_of_mem_lines hheading)).1
    · intro hentry
      exact IsDumped.heading_mem (isDumped_iff.mpr ⟨hentry, fun _ => hsample hentry⟩)
  case follows =>
    intro before after hlines
    rw [← body_of_copies h]
    exact body_follows_heading hlines
  case tabled =>
    have htitle : Section.heading Book.durations.title = "## Operation Time (s)" := by decide
    rintro report rfl
    refine ⟨_, report.markdown_eq, ?_, ?_⟩
    · rw [splitLines_tableLines, ← hpositive, ← htitle]
      exact heading_mem_tableLines_iff
    · intro hcount
      obtain ⟨before, hbefore, hlines⟩ := tableLines_of_times (hpositive.mpr hcount)
      rw [htitle] at hbefore
      rw [lines_part_of_copies h, ← List.append_assoc] at hlines
      refine ⟨before, hbefore, ?_⟩
      rw [splitLines_tableLines, hlines]

end Record

namespace Collector

/-- Whatever durations are recorded, the record shows what a histogram does that counts their
seconds by itself. -/
theorem operation_times_agree (whole : WholeBoundaries) (values : List Value) :
    Config.ofValues (whole.values.map Value.int) = .ok ⟨whole.toBoundaries⟩ ∧
      Boundaries.configure "boundaries" (whole.values.map Value.int) =
        .ok whole.toBoundaries ∧
      ∃ histogram record,
        Histogram.after whole.toBoundaries
            (values.map fun value => .increment ⟨value.seconds, 1⟩) = .ok histogram ∧
          ((empty whole.toBoundaries).run (values.map Step.duration)).1.record? = .ok record ∧
          record.ShowsTimesOf histogram := by
  have hconfigure := Boundaries.configure_number "boundaries" whole.toBoundaries
  rw [WholeBoundaries.toBoundaries, List.map_map] at hconfigure
  have hrecord := record?_toBoundaries
    ((empty whole.toBoundaries).run (values.map Step.duration)).1
  refine ⟨whole.ofValues_toBoundaries, hconfigure, _, _, after_seconds _ values, hrecord, ?_⟩
  exact Record.showsTimesOf (copies_operationTime _) (hasSample_of_hasEntry hrecord)

end Collector

end EasyConnect
