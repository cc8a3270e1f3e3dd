import EasyConnect.Proofs.Collector.Totals
import Mathlib.Algebra.BigOperators.Fin

namespace EasyConnect

/-! How much a collector has recorded in each of its histograms, and that its record has as much. -/

inductive Book
  | failures
  | successes
  | durations
  deriving DecidableEq

def Tally.total (tally : Tally Int n) : Int :=
  ((List.finRange n).map tally.get).sum

theorem Tally.total_empty (n : Nat) : (empty n).total = 0 := by
  have hget : (empty n).get = fun _ => 0 := funext get_empty
  rw [total, hget, List.sum_map_zero]

theorem Tally.total_add (tally : Tally Int n) (i : Fin n) (amount : Int) :
    (tally.add i amount).total = tally.total + amount := by
  have hget : (tally.add i amount).get = fun j => tally.get j + if i = j then amount else 0 :=
    funext fun j => tally.get_add i j amount
  rw [total, total, hget, List.sum_map_add, ← Fin.sum_univ_def fun j => if i = j then amount else 0,
    Finset.sum_ite_eq, if_pos (Finset.mem_univ i)]

theorem sum_positive {ι : Type} {held : ι → Int} (h : ∀ i, 0 ≤ held i) (indexes : List ι) :
    (((indexes.filter fun i => decide (0 < held i)).map fun i => (held i).toNat).sum : Int) =
      (indexes.map held).sum := by
  have hfilter : (indexes.filter fun i => decide (0 < held i)) =
      indexes.filter fun i => decide (0 < (held i).toNat) := by
    simp only [Int.lt_toNat, Int.natCast_zero]
  rw [hfilter, sum_filter_pos, Nat.cast_list_sum, List.map_map]
  exact congrArg List.sum (List.map_congr_left fun i _ => Int.toNat_of_nonneg (h i))

theorem map_of_mapM {ε α β γ : Type} {f : α → Except ε β} {read : β → γ} {g : α → γ}
    {xs : List α} {ys : List β} (hys : xs.mapM f = .ok ys)
    (h : ∀ x ∈ xs, ∀ y, f x = .ok y → read y = g x) : ys.map read = xs.map g := by
  induction xs generalizing ys with
  | nil =>
      cases hys
      rfl
  | cons x rest ih =>
      rw [List.mapM_cons] at hys
      cases hx : f x with
      | error fault =>
          rw [hx] at hys
          cases hys
      | ok y =>
          cases hrest : rest.mapM f with
          | error fault =>
              rw [hx, hrest] at hys
              cases hys
          | ok later =>
              rw [hx, hrest] at hys
              cases hys
              rw [List.map_cons, List.map_cons, h x List.mem_cons_self y hx,
                ih hrest fun other hother => h other (List.mem_cons_of_mem _ hother)]

theorem Bucket.count_of_record? {bucket : Bucket Int} {entry : BucketCount}
    (hcount : 0 ≤ bucket.count) (h : bucket.record? = .ok entry) :
    entry.count = bucket.count.toNat := by
  unfold record? at h
  cases hmembers : BucketCount.ofMembers bucket.members with
  | refused first rest =>
      rw [hmembers] at h
      cases h
  | accepted built =>
      rw [hmembers] at h
      cases h
      rw [bucket.ofMembers_members hcount] at hmembers
      obtain ⟨⟨start, stop, count⟩, hbounds, rfl⟩ := Validated.map_eq_accepted hmembers
      have hstop := (Validated.and_eq_accepted hbounds).2
      exact (Validated.accepted.inj (Validated.and_eq_accepted hstop).2).symm

def Record.total (record : Record) : Book → Nat
  | .failures => (record.failures.map StatusCount.count).sum
  | .successes => (record.successes.map StatusCount.count).sum
  | .durations => (record.operationTime.map BucketCount.count).sum

def Record.counts (record : Record) : Book → List Nat
  | .failures => record.failures.map StatusCount.count
  | .successes => record.successes.map StatusCount.count
  | .durations => record.operationTime.map BucketCount.count

theorem Record.total_eq (record : Record) (book : Book) :
    record.total book = (record.counts book).sum := by
  cases book <;> rfl

namespace Collector

variable {boundaries : Boundaries}

def total (collector : Collector boundaries) : Book → Int
  | .failures => collector.failures.total
  | .successes => collector.successes.total
  | .durations => collector.durations.counts.total

@[simp] theorem total_empty (book : Book) : (empty boundaries).total book = 0 := by
  cases book with
  | failures => exact Tally.total_empty 14
  | successes => exact Tally.total_empty 2
  | durations => exact Tally.total_empty (boundaries.size + 1)

@[simp] theorem total_count (collector : Collector boundaries) (counter : Counter)
    (book : Book) : (collector.count counter).total book = collector.total book := by
  cases book <;> rfl

@[simp] theorem total_addFailure (collector : Collector boundaries) (code : FailureCode)
    (book : Book) :
    (collector.addFailure code).total book =
      collector.total book + if book = .failures then 1 else 0 := by
  cases book with
  | failures => exact Tally.total_add _ _ _
  | successes => exact (Int.add_zero _).symm
  | durations => exact (Int.add_zero _).symm

@[simp] theorem total_addSuccess (collector : Collector boundaries) (code : SuccessCode)
    (book : Book) :
    (collector.addSuccess code).total book =
      collector.total book + if book = .successes then 1 else 0 := by
  cases book with
  | failures => exact (Int.add_zero _).symm
  | successes => exact Tally.total_add _ _ _
  | durations => exact (Int.add_zero _).symm

@[simp] theorem total_addDuration (collector : Collector boundaries) (millis : Nat)
    (book : Book) :
    (collector.addDuration millis).total book =
      collector.total book + if book = .durations then 1 else 0 := by
  cases book with
  | failures => exact (Int.add_zero _).symm
  | successes => exact (Int.add_zero _).symm
  | durations => exact Tally.total_add _ _ _

def IsNonnegative (collector : Collector boundaries) : Prop :=
  ∀ slot, 0 ≤ collector.held slot

theorem Holds.isNonnegative {collector : Collector boundaries} {steps : List Step}
    (h : collector.Holds steps) : collector.IsNonnegative := by
  intro slot
  rw [h slot]
  exact Int.natCast_nonneg _

theorem IsNonnegative.step {collector : Collector boundaries} (h : collector.IsNonnegative)
    (step : Step) : (collector.step step).1.IsNonnegative := by
  intro slot
  have hslot := h slot
  rw [held_step]
  split
  · exact Int.le_refl 0
  · split <;> omega

def slots (boundaries : Boundaries) : Book → List (Slot boundaries)
  | .failures => FailureCode.all.map Slot.failure
  | .successes => SuccessCode.all.map Slot.success
  | .durations => (List.finRange (boundaries.size + 1)).map Slot.bucket

theorem total_eq (collector : Collector boundaries) (book : Book) :
    collector.total book = ((slots boundaries book).map collector.held).sum := by
  cases book with
  | failures =>
      have hcodes : FailureCode.all.map FailureCode.index = List.finRange 14 := by decide
      rw [total, Tally.total, ← hcodes, slots, List.map_map, List.map_map]
      rfl
  | successes =>
      have hcodes : SuccessCode.all.map SuccessCode.index = List.finRange 2 := by decide
      rw [total, Tally.total, ← hcodes, slots, List.map_map, List.map_map]
      rfl
  | durations =>
      rw [total, Tally.total, slots, List.map_map]
      rfl

/-- A record has an entry for each slot with a count, and no others. -/
theorem counts_record? {collector : Collector boundaries} {record : Record}
    (hrecord : collector.record? = .ok record) (book : Book) :
    record.counts book =
      ((slots boundaries book).filter fun slot => decide (0 < collector.held slot)).map
        fun slot => (collector.held slot).toNat := by
  unfold record? at hrecord
  cases hentries : collector.durations.buckets.mapM Bucket.record? with
  | error fault =>
      rw [hentries] at hrecord
      cases hrecord
  | ok entries =>
      rw [hentries] at hrecord
      cases hrecord
      rw [slots.eq_def]
      cases book with
      | failures =>
          simp only [Record.counts, failureCounts, filterMap_statusCount, List.filter_map,
            List.map_map]
          rfl
      | successes =>
          simp only [Record.counts, successCounts, filterMap_statusCount, List.filter_map,
            List.map_map]
          rfl
      | durations =>
          have hcounts : entries.map BucketCount.count =
              collector.durations.buckets.map fun bucket => bucket.count.toNat := by
            apply map_of_mapM hentries
            intro bucket hbucket entry hentry
            have hpositive := (List.mem_filter.mp hbucket).2
            rw [Count.isPositive_int, decide_eq_true_eq] at hpositive
            exact bucket.count_of_record? (Int.le_of_lt hpositive) hentry
          simp only [Record.counts, hcounts, Histogram.buckets_eq, List.filter_map, List.map_map]
          rfl

theorem total_record? {collector : Collector boundaries} (h : collector.IsNonnegative)
    {record : Record} (hrecord : collector.record? = .ok record) (book : Book) :
    (record.total book : Int) = collector.total book := by
  rw [record.total_eq, counts_record? hrecord, total_eq]
  exact sum_positive h (slots boundaries book)

end Collector

end EasyConnect
