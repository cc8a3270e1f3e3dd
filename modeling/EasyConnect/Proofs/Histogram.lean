import EasyConnect.Histogram.Sample
import EasyConnect.Proofs.Collector.Record
import EasyConnect.Proofs.Configuration
import Mathlib.Algebra.BigOperators.Fin

namespace EasyConnect

/-! A histogram of whole amounts, after any increments and clearings, shows what the increments
since the last clearing add up to in each span between the boundaries. -/

def Span.bucket (span : Span) (n : Int) : Bucket Amount :=
  ⟨.int span.start, span.stop.map .int, .whole n⟩

def Span.entry (span : Span) (n : Int) : String :=
  "[" ++ Numeral.decimal span.start ++ "," ++
    (match span.stop with
      | some stop => Numeral.decimal stop
      | none => "inf") ++ ")" ++ "=" ++ Numeral.decimal n

def Bucket.Precedes (first second : Bucket κ) : Prop :=
  first.start.lt second.start = true ∧
    ∃ stop ∈ first.stop, stop.le second.start = true

theorem Span.entry_eq (span : Span) (n : Int) :
    (span.bucket n).label ++ "=" ++ (Count.number (span.bucket n).count).text =
      span.entry n := by
  obtain ⟨start, stop⟩ := span
  cases stop <;> rfl

theorem Span.Precedes.bucket {first second : Span} (h : first.Precedes second) (m n : Int) :
    (first.bucket m).Precedes (second.bucket n) := by
  obtain ⟨hstart, stop, hstop, hle⟩ := h
  refine ⟨?_, .int stop, Option.mem_map_of_mem _ hstop, ?_⟩
  · exact (Number.lt_int_int _ _).trans (decide_eq_true hstart)
  · exact (Number.le_int_int _ _).trans (decide_eq_true hle)

namespace Histogram

variable {boundaries : Boundaries}

structure Increment where
  sample : Int
  amount : Int

inductive Change
  | increment (increment : Increment)
  | clear

/-- The increments since the last clearing. -/
def increments (changes : List Change) : List Increment :=
  changes.foldl
    (fun earlier change =>
      match change with
      | .increment increment => earlier ++ [increment]
      | .clear => [])
    []

/-- All that the increments add to a span. -/
def net (span : Span) (increments : List Increment) : Int :=
  ((increments.filter fun increment => span.takes increment.sample).map Increment.amount).sum

def change (histogram : Histogram Amount boundaries) :
    Change → Except SampleFault (Histogram Amount boundaries)
  | .increment increment =>
      histogram.incrementValue (.int increment.sample) (.int increment.amount)
  | .clear => .ok histogram.clear

def after (boundaries : Boundaries) (changes : List Change) :
    Except SampleFault (Histogram Amount boundaries) :=
  changes.foldlM change (empty boundaries)

/-- The same increments in another order, or with some put together or taken apart. -/
inductive Regroups : List Increment → List Increment → Prop
  | order {first second : List Increment} (permutes : first.Perm second) :
      Regroups first second
  | apart (sample first second : Int) (others : List Increment) :
      Regroups (⟨sample, first + second⟩ :: others)
        (⟨sample, first⟩ :: ⟨sample, second⟩ :: others)
  | symm {first second : List Increment} (regroups : Regroups first second) :
      Regroups second first
  | trans {first second third : List Increment} (left : Regroups first second)
      (right : Regroups second third) : Regroups first third

theorem net_nil (span : Span) : net span [] = 0 := rfl

theorem net_cons (span : Span) (first : Increment) (later : List Increment) :
    net span (first :: later) =
      (if span.takes first.sample then first.amount else 0) + net span later := by
  unfold net
  rw [List.filter_cons]
  split
  · rw [List.map_cons, List.sum_cons]
  · rw [Int.zero_add]

theorem net_append (span : Span) (first second : List Increment) :
    net span (first ++ second) = net span first + net span second := by
  rw [net, List.filter_append, List.map_append, List.sum_append, ← net, ← net]

theorem Regroups.net_eq {first second : List Increment} (h : Regroups first second)
    (span : Span) : net span first = net span second := by
  induction h with
  | order permutes => exact ((permutes.filter _).map _).sum_eq
  | apart sample first second others =>
      simp only [net_cons]
      split
      · exact Int.add_assoc _ _ _
      · simp only [Int.zero_add]
  | symm _ ih => exact ih.symm
  | trans _ _ ihleft ihright => exact ihleft.trans ihright

/-! The same changes on a histogram that counts in integers only. -/

def changeWhole (histogram : Histogram Int boundaries) : Change → Histogram Int boundaries
  | .increment increment => histogram.increment (.int increment.sample) increment.amount
  | .clear => empty boundaries

def wholeAfter (boundaries : Boundaries) (changes : List Change) : Histogram Int boundaries :=
  changes.foldl changeWhole (empty boundaries)

theorem ofWhole_empty (boundaries : Boundaries) :
    (empty boundaries : Histogram Int boundaries).ofWhole = empty boundaries := by
  simp only [ofWhole, empty, mk.injEq]
  ext i
  rw [Tally.get_map, Tally.get_uniform, Tally.get_uniform]
  rfl

theorem change_ofWhole (histogram : Histogram Int boundaries) (change : Change) :
    histogram.ofWhole.change change = .ok (histogram.changeWhole change).ofWhole := by
  cases change with
  | increment increment => exact histogram.incrementValue_ofWhole _ _
  | clear => exact congrArg Except.ok (ofWhole_empty boundaries).symm

theorem after_eq_ok (boundaries : Boundaries) (changes : List Change) :
    after boundaries changes = .ok (wholeAfter boundaries changes).ofWhole := by
  have hfold (histogram : Histogram Int boundaries) :
      changes.foldlM change histogram.ofWhole =
        .ok (changes.foldl changeWhole histogram).ofWhole := by
    induction changes generalizing histogram with
    | nil => rfl
    | cons first later ih =>
        rw [List.foldlM_cons, change_ofWhole, List.foldl_cons, ← ih]
        rfl
  rw [after, ← ofWhole_empty, hfold, wholeAfter]

theorem counts_increment (histogram : Histogram Int boundaries) (sample : Number)
    (amount : Int) :
    (histogram.increment sample amount).counts =
      histogram.counts.add (boundaries.bucketIndex sample) amount := rfl

theorem get_wholeAfter (whole : WholeBoundaries) (changes : List Change)
    (i : Fin (whole.toBoundaries.size + 1)) :
    (wholeAfter whole.toBoundaries changes).counts.get i =
      net (whole.span i) (increments changes) := by
  induction changes using List.reverseRecOn with
  | nil => exact Tally.get_uniform _ i
  | append_singleton changes last ih =>
      rw [wholeAfter, increments, List.foldl_append, List.foldl_append, ← wholeAfter,
        ← increments, List.foldl_cons, List.foldl_cons, List.foldl_nil, List.foldl_nil]
      cases last with
      | clear => exact Tally.get_uniform _ i
      | increment increment =>
          rw [net_append, ← ih, changeWhole, counts_increment, Tally.get_add, net_cons, net_nil,
            Int.add_zero]
          simp only [whole.bucketIndex_int_eq_iff]

/-! What the readers of a histogram show. -/

theorem numNonEmpty_eq_length [Count κ] (histogram : Histogram κ boundaries) :
    histogram.numNonEmpty = histogram.buckets.length := by
  have hcounts : histogram.counts.toList =
      (List.finRange (boundaries.size + 1)).map histogram.counts.get := by
    apply List.ext_getElem
    · simp
    · intro i h h'
      simp [Tally.getElem_toList]
  rw [numNonEmpty, hcounts, buckets_eq_map, List.length_map, List.countP_map,
    List.countP_eq_length_filter]
  rfl

/-- Every reader of the histogram shows the net amounts of the spans: the count at a sample that
of the one span that takes it, and the others those that are positive, in ascending order. -/
structure ShowsNet (whole : WholeBoundaries) (increments : List Increment)
    (histogram : Histogram Amount whole.toBoundaries) : Prop where
  count : ∀ sample : Int, ∃ span ∈ whole.spans, span.takes sample = true ∧
    (∀ other ∈ whole.spans, other.takes sample = true → other = span) ∧
    histogram.countValue (.int sample) = .ok (.whole (net span increments))
  buckets : histogram.buckets =
    (whole.spans.filter fun span => decide (0 < net span increments)).map fun span =>
      span.bucket (net span increments)
  ascending : histogram.buckets.Pairwise Bucket.Precedes
  numNonEmpty : histogram.numNonEmpty = histogram.buckets.length
  text : histogram.text = "\x7b" ++ ", ".intercalate
    ((whole.spans.filter fun span => decide (0 < net span increments)).map fun span =>
      span.entry (net span increments)) ++ "\x7d"

theorem bucketAt_ofWhole {whole : WholeBoundaries}
    (histogram : Histogram Int whole.toBoundaries)
    (i : Fin (whole.toBoundaries.size + 1)) :
    histogram.ofWhole.bucketAt i = (whole.span i).bucket (histogram.counts.get i) := by
  rw [bucketAt, whole.startAt_toBoundaries, whole.stopAt_toBoundaries, ofWhole, Tally.get_map]
  rfl

theorem isPositive_ofWhole (histogram : Histogram Int boundaries)
    (i : Fin (boundaries.size + 1)) :
    Count.isPositive (histogram.ofWhole.counts.get i) = decide (0 < histogram.counts.get i) := by
  rw [ofWhole, Tally.get_map]
  exact Number.lt_int_int _ _

theorem buckets_ofWhole {whole : WholeBoundaries} {increments : List Increment}
    {histogram : Histogram Int whole.toBoundaries}
    (h : ∀ i, histogram.counts.get i = net (whole.span i) increments) :
    histogram.ofWhole.buckets =
      (whole.spans.filter fun span => decide (0 < net span increments)).map fun span =>
        span.bucket (net span increments) := by
  have hpositive (i : Fin (whole.toBoundaries.size + 1)) :
      Count.isPositive (histogram.ofWhole.counts.get i) =
        decide (0 < net (whole.span i) increments) := by
    rw [isPositive_ofWhole, h]
  have hbucket : histogram.ofWhole.bucketAt =
      fun i => (whole.span i).bucket (net (whole.span i) increments) :=
    funext fun i => by rw [bucketAt_ofWhole, h]
  rw [buckets_eq_map, hbucket, ← whole.map_span_finRange, List.filter_map, List.map_map]
  simp only [hpositive]
  rfl

theorem showsNet_ofWhole {whole : WholeBoundaries} {increments : List Increment}
    {histogram : Histogram Int whole.toBoundaries}
    (h : ∀ i, histogram.counts.get i = net (whole.span i) increments) :
    histogram.ofWhole.ShowsNet whole increments := by
  constructor
  case count =>
    intro sample
    have htakes := (whole.bucketIndex_int_eq_iff sample _).mp rfl
    refine ⟨_, (whole.mem_spans_iff _).mpr ⟨_, rfl⟩, htakes, ?_, ?_⟩
    · intro other hother hsample
      obtain ⟨i, rfl⟩ := (whole.mem_spans_iff other).mp hother
      rw [(whole.bucketIndex_int_eq_iff sample i).mpr hsample]
    · rw [← h, countValue]
      exact congrArg Except.ok (histogram.count_ofWhole _)
  case buckets => exact buckets_ofWhole h
  case ascending =>
    rw [buckets_ofWhole h, List.pairwise_map]
    exact (whole.spans_precede.filter _).imp fun hprecedes => hprecedes.bucket _ _
  case numNonEmpty => exact numNonEmpty_eq_length _
  case text =>
    rw [Histogram.text, buckets_ofWhole h, List.map_map]
    simp only [Function.comp_def, Span.entry_eq]

theorem showsNet_after (whole : WholeBoundaries) (changes : List Change) :
    ∃ histogram, after whole.toBoundaries changes = .ok histogram ∧
      histogram.ShowsNet whole (increments changes) :=
  ⟨_, after_eq_ok _ changes, showsNet_ofWhole fun i => get_wholeAfter whole changes i⟩

theorem after_eq_of_net_eq (whole : WholeBoundaries) {first second : List Change}
    (h : ∀ span ∈ whole.spans, net span (increments first) = net span (increments second)) :
    after whole.toBoundaries first = after whole.toBoundaries second := by
  have hcounts : (wholeAfter whole.toBoundaries first).counts =
      (wholeAfter whole.toBoundaries second).counts := by
    ext i
    rw [get_wholeAfter, get_wholeAfter, h _ ((whole.mem_spans_iff _).mpr ⟨i, rfl⟩)]
  rw [after_eq_ok, after_eq_ok, ofWhole, hcounts]
  rfl

/-- On any boundaries in ascending whole seconds, any increments and clearings succeed. What a
histogram then shows are the net amounts, so it does not matter in which order or how grouped
the increments since the last clearing came. -/
theorem after_shows_net (whole : WholeBoundaries) (changes : List Change) :
    Boundaries.configure "boundaries" (whole.values.map Value.int) = .ok whole.toBoundaries ∧
      ∃ histogram, after whole.toBoundaries changes = .ok histogram ∧
        histogram.ShowsNet whole (increments changes) ∧
        ∀ other, Regroups (increments changes) (increments other) →
          after whole.toBoundaries other = .ok histogram := by
  obtain ⟨histogram, hafter, hshows⟩ := showsNet_after whole changes
  refine ⟨?_, histogram, hafter, hshows, ?_⟩
  · have hconfigure := Boundaries.configure_number "boundaries" whole.toBoundaries
    rw [WholeBoundaries.toBoundaries, List.map_map] at hconfigure
    exact hconfigure
  · intro other hregroups
    rw [← hafter]
    exact after_eq_of_net_eq whole fun span _ => (hregroups.net_eq span).symm

end Histogram

end EasyConnect
