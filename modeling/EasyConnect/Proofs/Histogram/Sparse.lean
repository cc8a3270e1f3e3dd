import EasyConnect.Histogram.Sparse
import EasyConnect.Proofs.Dictionary
import EasyConnect.Proofs.Histogram

namespace EasyConnect

/-! A sparse histogram stands for the one with a count for every bucket: each change of the one is
that of the other, and no reader tells them apart. -/

class LawfulCount (κ : Type) [Count κ] : Prop where
  isPositive_zero : Count.isPositive (Count.zero : κ) = false

instance : LawfulCount Int where
  isPositive_zero := Count.isPositive_int 0

instance : LawfulCount Amount where
  isPositive_zero := Number.lt_int_int 0 0

namespace SparseHistogram

variable {boundaries : Boundaries} [Count κ]

/-- The counts of all buckets, with zero for those that none is kept for. -/
def dense (histogram : SparseHistogram κ boundaries) : Histogram κ boundaries :=
  ⟨.ofFn fun i => histogram.counts.getD i Count.zero⟩

theorem get_counts_dense (histogram : SparseHistogram κ boundaries)
    (i : Fin (boundaries.size + 1)) :
    histogram.dense.counts.get i = histogram.counts.getD i Count.zero :=
  Tally.get_ofFn _ i

theorem dense_empty :
    (empty boundaries : SparseHistogram κ boundaries).dense = Histogram.empty boundaries := by
  rw [dense, Histogram.empty, Histogram.mk.injEq]
  ext i
  rw [Tally.get_ofFn, Tally.get_uniform]
  rfl

theorem count_dense (histogram : SparseHistogram κ boundaries) (sample : Number) :
    histogram.dense.count sample = histogram.count sample :=
  histogram.get_counts_dense _

theorem dense_setCount (histogram : SparseHistogram κ boundaries) (sample : Number) (count : κ) :
    (histogram.setCount sample count).dense = histogram.dense.setCount sample count := by
  rw [dense, Histogram.setCount, Histogram.mk.injEq]
  ext i
  rw [Tally.get_ofFn, Tally.get_set, get_counts_dense, setCount, Dictionary.getD,
    Dictionary.get?_set]
  split <;> rfl

theorem dense_increment (histogram : SparseHistogram Int boundaries) (sample : Number)
    (amount : Int) :
    (histogram.increment sample amount).dense = histogram.dense.increment sample amount := by
  rw [increment, dense_setCount, Histogram.increment, count_dense]

theorem dense_incrementValue (histogram : SparseHistogram Amount boundaries)
    (sample amount : Value) :
    (histogram.incrementValue sample amount).map dense =
      histogram.dense.incrementValue sample amount := by
  unfold incrementValue Histogram.incrementValue
  cases boundaries.sample sample with
  | error fault => rfl
  | ok sample =>
      have hcount := histogram.count_dense sample
      simp only [bind, Except.bind, hcount]
      cases (histogram.count sample).ofValue amount with
      | error fault => rfl
      | ok amount =>
          dsimp only
          cases (histogram.count sample).add amount with
          | error fault => rfl
          | ok total => exact congrArg Except.ok (histogram.dense_setCount sample total)

theorem countValue_dense (histogram : SparseHistogram Amount boundaries) (sample : Value) :
    histogram.dense.countValue sample = histogram.countValue sample := by
  rw [Histogram.countValue, countValue, funext histogram.count_dense]

theorem length_buckets (histogram : SparseHistogram κ boundaries) :
    histogram.buckets.length = histogram.numNonEmpty := by
  have hsorted := histogram.counts.perm_sorted Fin.val
  rw [buckets, List.length_map, ← List.countP_eq_length_filter]
  exact hsorted.countP_eq _

variable [LawfulCount κ]

theorem filter_bucketAt_dense (histogram : SparseHistogram κ boundaries)
    (order : List (Fin (boundaries.size + 1))) :
    (order.filter fun i => Count.isPositive (histogram.dense.counts.get i)).map
        histogram.dense.bucketAt =
      ((histogram.counts.among order).filter fun entry => Count.isPositive entry.2).map
        fun (i, count) => ⟨boundaries.startAt i, boundaries.stopAt i, count⟩ := by
  induction order with
  | nil => rfl
  | cons i rest ih =>
      have hget := histogram.get_counts_dense i
      rw [List.filter_cons, Dictionary.among, List.filterMap_cons, ← Dictionary.among]
      cases hcount : histogram.counts.get? i with
      | none =>
          rw [Dictionary.getD, hcount, Option.getD_none] at hget
          rw [hget, LawfulCount.isPositive_zero, if_neg Bool.false_ne_true, ih]
          rfl
      | some count =>
          rw [Dictionary.getD, hcount, Option.getD_some] at hget
          dsimp only [Option.map_some]
          rw [hget, List.filter_cons]
          cases Count.isPositive count with
          | false => exact ih
          | true => rw [if_pos rfl, if_pos rfl, List.map_cons, List.map_cons, ih,
              Histogram.bucketAt, hget]

theorem buckets_dense (histogram : SparseHistogram κ boundaries) :
    histogram.dense.buckets = histogram.buckets := by
  have hsorted : histogram.counts.sorted Fin.val =
      histogram.counts.among (List.finRange (boundaries.size + 1)) :=
    Dictionary.sorted_eq_among (fun _ _ => Fin.ext) (List.pairwise_lt_finRange _)
      fun i _ => List.mem_finRange i
  rw [Histogram.buckets_eq_map, filter_bucketAt_dense, buckets, hsorted]

theorem numNonEmpty_dense (histogram : SparseHistogram κ boundaries) :
    histogram.dense.numNonEmpty = histogram.numNonEmpty := by
  rw [Histogram.numNonEmpty_eq_length, buckets_dense, length_buckets]

theorem text_dense (histogram : SparseHistogram κ boundaries) :
    histogram.dense.text = histogram.text := by
  rw [Histogram.text, buckets_dense, text]

theorem written_dense (histogram : SparseHistogram κ boundaries) :
    histogram.dense.written = histogram.written := by
  have htext := histogram.text_dense
  unfold Histogram.written written
  rw [htext]

/-- Every reader of the sparse histogram answers as that of the other does. -/
structure ReadsAs (histogram : SparseHistogram Amount boundaries)
    (other : Histogram Amount boundaries) : Prop where
  count : ∀ sample, histogram.countValue sample = other.countValue sample
  buckets : histogram.buckets = other.buckets
  numNonEmpty : histogram.numNonEmpty = other.numNonEmpty
  text : histogram.text = other.text
  written : histogram.written = other.written

theorem readsAs_dense (histogram : SparseHistogram Amount boundaries) :
    histogram.ReadsAs histogram.dense where
  count := fun sample => (histogram.countValue_dense sample).symm
  buckets := histogram.buckets_dense.symm
  numNonEmpty := histogram.numNonEmpty_dense.symm
  text := histogram.text_dense.symm
  written := histogram.written_dense.symm

/-! Any changes, one after the other. -/

def change (histogram : SparseHistogram Amount boundaries) :
    Histogram.Change → Except SampleFault (SparseHistogram Amount boundaries)
  | .increment increment =>
      histogram.incrementValue (.int increment.sample) (.int increment.amount)
  | .clear => .ok histogram.clear

theorem dense_change (histogram : SparseHistogram Amount boundaries)
    (change : Histogram.Change) :
    (histogram.change change).map dense = histogram.dense.change change := by
  cases change with
  | increment increment => exact histogram.dense_incrementValue _ _
  | clear => exact congrArg Except.ok dense_empty

theorem dense_changes (histogram : SparseHistogram Amount boundaries)
    (changes : List Histogram.Change) :
    (changes.foldlM change histogram).map dense =
      changes.foldlM Histogram.change histogram.dense := by
  induction changes generalizing histogram with
  | nil => rfl
  | cons first later ih =>
      rw [List.foldlM_cons, List.foldlM_cons, ← histogram.dense_change]
      cases histogram.change first with
      | error fault => rfl
      | ok next => exact ih next

/-- From nothing on, any increments and clearings leave a histogram that shows their net amounts
to every reader. -/
theorem exists_showsNet (whole : WholeBoundaries) (changes : List Histogram.Change) :
    ∃ histogram, changes.foldlM change (empty whole.toBoundaries) = .ok histogram ∧
      ∃ shown : Histogram Amount whole.toBoundaries,
        histogram.ReadsAs shown ∧ shown.ShowsNet whole (Histogram.increments changes) := by
  have hdense := (empty whole.toBoundaries).dense_changes changes
  obtain ⟨shown, hshown, hnet⟩ := Histogram.showsNet_after whole changes
  rw [dense_empty, ← Histogram.after, hshown] at hdense
  cases hsparse : changes.foldlM change (empty whole.toBoundaries) with
  | error fault =>
      rw [hsparse] at hdense
      cases hdense
  | ok histogram =>
      rw [hsparse] at hdense
      cases hdense
      exact ⟨histogram, rfl, histogram.dense, histogram.readsAs_dense, hnet⟩

end SparseHistogram

end EasyConnect
