import EasyConnect.Proofs.Boundaries.Tiling

namespace EasyConnect

/-! Boundaries that are all among finer ones.  Every span of the finer ones lies in one span of the
coarser ones, which is made up of the spans that lie in it. -/

namespace Span

def liesIn (span wide : Span) : Bool :=
  decide (wide.start ≤ span.start) &&
    wide.stop.all fun stop => span.stop.any fun inner => decide (inner ≤ stop)

theorem liesIn_iff {span wide : Span} :
    span.liesIn wide = true ↔
      wide.start ≤ span.start ∧ ∀ stop ∈ wide.stop, ∃ inner ∈ span.stop, inner ≤ stop := by
  simp only [liesIn, Bool.and_eq_true, decide_eq_true_eq, Option.all_eq_true,
    Option.any_eq_true, Option.mem_def]

theorem Precedes.contains_eq_false {first second : Span} (h : first.Precedes second) {n : Int}
    (hn : first.contains n = true) : second.contains n = false := by
  obtain ⟨-, stop, hstop, hle⟩ := h
  have hbefore := (contains_iff.mp hn).2 stop hstop
  rw [Bool.eq_false_iff, ne_eq, contains_iff]
  omega

end Span

namespace WholeBoundaries

theorem start_mem_of_mem_spans {whole : WholeBoundaries} {span : Span}
    (h : span ∈ whole.spans) : span.start ∈ 0 :: whole.values := by
  rw [← map_start_spans]
  exact List.mem_map_of_mem h

theorem stop_mem_of_mem_spans {whole : WholeBoundaries} {span : Span}
    (h : span ∈ whole.spans) {stop : Int} (hstop : stop ∈ span.stop) : stop ∈ whole.values := by
  obtain ⟨i, rfl⟩ := (whole.mem_spans_iff span).mp h
  rw [Option.mem_def, stop_span] at hstop
  exact List.mem_of_getElem? hstop

theorem contains_start {whole : WholeBoundaries} {span : Span} (h : span ∈ whole.spans) :
    span.contains span.start = true := by
  obtain ⟨i, rfl⟩ := (whole.mem_spans_iff span).mp h
  exact (whole.bucketIndex_of_nonneg (whole.start_span_nonneg i) i).mp
    (whole.bucketIndex_start_span i)

theorem existsUnique_contains (whole : WholeBoundaries) {n : Int} (h : 0 ≤ n) :
    ∃! span, span ∈ whole.spans ∧ span.contains n = true := by
  have hindex := whole.bucketIndex_of_nonneg h
  refine ⟨whole.span (whole.toBoundaries.bucketIndex (.int n)),
    ⟨(whole.mem_spans_iff _).mpr ⟨_, rfl⟩, (hindex _).mp rfl⟩, ?_⟩
  rintro other ⟨hother, hcontains⟩
  obtain ⟨i, rfl⟩ := (whole.mem_spans_iff other).mp hother
  rw [(hindex i).mpr hcontains]

/-- No boundary, and not zero either, is inside of a span. -/
theorem le_start_or_stop_le {whole : WholeBoundaries} {span : Span} (h : span ∈ whole.spans)
    {bound : Int} (hbound : bound ∈ 0 :: whole.values) :
    bound ≤ span.start ∨ ∃ stop ∈ span.stop, stop ≤ bound := by
  rw [← map_start_spans] at hbound
  obtain ⟨other, hother, rfl⟩ := List.mem_map.mp hbound
  obtain ⟨i, rfl⟩ := (whole.mem_spans_iff span).mp h
  obtain ⟨j, rfl⟩ := (whole.mem_spans_iff other).mp hother
  rcases Nat.lt_trichotomy i.val j.val with hlt | heq | hgt
  · exact .inr (whole.span_precedes hlt).2
  · rw [Fin.ext heq]
    exact .inl (Int.le_refl _)
  · exact .inl (Int.le_of_lt (whole.start_span_lt hgt))

variable {fine coarse : WholeBoundaries}

theorem liesIn_iff_contains (hrefines : coarse.values ⊆ fine.values) {span wide : Span}
    (hspan : span ∈ fine.spans) (hwide : wide ∈ coarse.spans) {n : Int}
    (hn : span.contains n = true) : span.liesIn wide = true ↔ wide.contains n = true := by
  rw [Span.liesIn_iff, Span.contains_iff]
  rw [Span.contains_iff] at hn
  constructor
  · rintro ⟨hstart, hstops⟩
    refine ⟨Int.le_trans hstart hn.1, ?_⟩
    intro stop hstop
    obtain ⟨inner, hinner, hle⟩ := hstops stop hstop
    exact Int.lt_of_lt_of_le (hn.2 inner hinner) hle
  · rintro ⟨hstart, hstops⟩
    constructor
    · have hmem := List.cons_subset_cons 0 hrefines (start_mem_of_mem_spans hwide)
      rcases le_start_or_stop_le hspan hmem with hle | ⟨inner, hinner, hle⟩
      · exact hle
      · have hbefore := hn.2 inner hinner
        omega
    · intro stop hstop
      have hmem := List.mem_cons_of_mem 0 (hrefines (stop_mem_of_mem_spans hwide hstop))
      rcases le_start_or_stop_le hspan hmem with hle | hinner
      · have hbefore := hstops stop hstop
        omega
      · exact hinner

theorem existsUnique_liesIn (hrefines : coarse.values ⊆ fine.values) {span : Span}
    (hspan : span ∈ fine.spans) : ∃! wide, wide ∈ coarse.spans ∧ span.liesIn wide = true := by
  have hstart := contains_start hspan
  have hnonneg : 0 ≤ span.start := by
    obtain ⟨i, rfl⟩ := (fine.mem_spans_iff span).mp hspan
    exact fine.start_span_nonneg i
  have hlies (wide : Span) : (wide ∈ coarse.spans ∧ span.liesIn wide = true) ↔
      wide ∈ coarse.spans ∧ wide.contains span.start = true :=
    and_congr_right fun hwide => liesIn_iff_contains hrefines hspan hwide hstart
  simp only [hlies]
  exact coarse.existsUnique_contains hnonneg

theorem contains_eq_any (hrefines : coarse.values ⊆ fine.values) {wide : Span}
    (hwide : wide ∈ coarse.spans) {n : Int} (hn : 0 ≤ n) :
    wide.contains n =
      (fine.spans.filter fun span => span.liesIn wide).any fun span => span.contains n := by
  rw [Bool.eq_iff_iff, List.any_eq_true]
  constructor
  · intro hcontains
    obtain ⟨span, ⟨hspan, hsample⟩, -⟩ := fine.existsUnique_contains hn
    have hlies := (liesIn_iff_contains hrefines hspan hwide hsample).mpr hcontains
    exact ⟨span, List.mem_filter.mpr ⟨hspan, hlies⟩, hsample⟩
  · rintro ⟨span, hmem, hsample⟩
    obtain ⟨hspan, hlies⟩ := List.mem_filter.mp hmem
    exact (liesIn_iff_contains hrefines hspan hwide hsample).mp hlies

end WholeBoundaries

end EasyConnect
