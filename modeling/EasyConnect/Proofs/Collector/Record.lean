import EasyConnect.Proofs.Boundaries.Whole
import EasyConnect.Proofs.Collector.Slot
import EasyConnect.Proofs.Record.Export
import Mathlib.Data.List.FinRange

namespace EasyConnect

/-! When a collector yields a record.  Every bucket in use has to have bounds that a record may
hold; bounds in whole seconds always are. -/

theorem isOk_mapM {ε α β : Type} (f : α → Except ε β) (xs : List α) :
    (xs.mapM f).isOk = xs.all fun x => (f x).isOk := by
  induction xs with
  | nil => rfl
  | cons x rest ih =>
      rw [List.mapM_cons, List.all_cons, ← ih]
      cases f x with
      | error fault => rfl
      | ok y => cases rest.mapM f <;> rfl

theorem mapM_eq_ok_map {ε α β : Type} {f : α → Except ε β} {g : α → β} {xs : List α}
    (h : ∀ x ∈ xs, f x = .ok (g x)) : xs.mapM f = .ok (xs.map g) := by
  induction xs with
  | nil => rfl
  | cons x rest ih =>
      rw [List.mapM_cons, h x List.mem_cons_self,
        ih fun y hy => h y (List.mem_cons_of_mem _ hy)]
      rfl

/-- A float is recordable if it is whole and lies strictly between the ends of a signed word. -/
def Number.isRecordable : Number → Bool
  | .float x => x.toRat?.any fun q =>
      decide (q.den = 1) && decide (-wordLimit < q.num) && decide (q.num < wordLimit)
  | _ => true

theorem Number.isOk_readInteger (number : Number) :
    (readInteger (.number number)).isOk = number.isRecordable := by
  cases number with
  | int n => rfl
  | bool b => rfl
  | member m => rfl
  | float x =>
      simp only [readInteger, readIntegerFloat, isRecordable]
      cases x.toRat? with
      | none => rfl
      | some q =>
          by_cases hden : q.den = 1
          · by_cases hbounds : -wordLimit < q.num ∧ q.num < wordLimit
            · simp [hden, hbounds, Except.isOk, Except.toBool]
            · simp [hden, hbounds, Except.isOk, Except.toBool]
              omega
          · simp [hden, Except.isOk, Except.toBool]

namespace Bucket

def isRecordable (bucket : Bucket κ) : Bool :=
  bucket.start.isRecordable && bucket.stop.all Number.isRecordable

def readStop (bucket : Bucket Int) : Except DefectKind (Option Int) :=
  match bucket.stop with
  | some stop => (readInteger (.number stop)).map some
  | none => .ok none

theorem isOk_readStop (bucket : Bucket Int) :
    bucket.readStop.isOk = bucket.stop.all Number.isRecordable := by
  unfold readStop
  cases bucket.stop with
  | none => rfl
  | some stop =>
      rw [Option.all_some, ← Number.isOk_readInteger]
      dsimp only
      cases readInteger (.number stop) <;> rfl

theorem optional_end (bucket : Bucket Int) :
    Members.optional bucket.members "end" none EasyConnect.readStop =
      .ofMember "end" bucket.readStop := by
  obtain ⟨start, stop, count⟩ := bucket
  cases stop <;> rfl

theorem ofMembers_members (bucket : Bucket Int) (hcount : 0 ≤ bucket.count) :
    BucketCount.ofMembers bucket.members =
      ((Validated.ofMember "start" (readInteger (.number bucket.start))).and
        ((Validated.ofMember "end" bucket.readStop).and
          (.accepted bucket.count.toNat))).map
        fun (start, stop, count) => ⟨start, stop, count⟩ := by
  have hstart : Members.required bucket.members "start" readInteger =
      .ofMember "start" (readInteger (.number bucket.start)) := rfl
  have hread : readCount (.int bucket.count) = .ok bucket.count.toNat :=
    readCount_of_nonneg hcount
  have hrequired : Members.required bucket.members "count" readCount =
      .ofMember "count" (readCount (.int bucket.count)) := rfl
  rw [BucketCount.ofMembers, hstart, bucket.optional_end, hrequired, hread]
  rfl

theorem record?_eq_ok {bucket : Bucket Int} {start : Int} {stop : Option Int}
    (hcount : 0 ≤ bucket.count) (hstart : readInteger (.number bucket.start) = .ok start)
    (hstop : bucket.readStop = .ok stop) :
    bucket.record? = .ok ⟨start, stop, bucket.count.toNat⟩ := by
  rw [record?, bucket.ofMembers_members hcount, hstart, hstop]
  rfl

theorem isOk_record? (bucket : Bucket Int) (hcount : 0 ≤ bucket.count) :
    bucket.record?.isOk = bucket.isRecordable := by
  rw [isRecordable, ← Number.isOk_readInteger, ← bucket.isOk_readStop, record?,
    bucket.ofMembers_members hcount]
  cases readInteger (.number bucket.start) with
  | error kind => cases bucket.readStop <;> rfl
  | ok start => cases bucket.readStop <;> rfl

end Bucket

namespace Histogram

variable {boundaries : Boundaries}

def bucketAt (histogram : Histogram κ boundaries) (i : Fin (boundaries.size + 1)) :
    Bucket κ :=
  ⟨boundaries.startAt i, boundaries.stopAt i, histogram.counts.get i⟩

theorem allBuckets_eq (histogram : Histogram κ boundaries) :
    histogram.allBuckets = (List.finRange (boundaries.size + 1)).map histogram.bucketAt := by
  apply List.ext_getElem
  · simp [allBuckets]
  · intro i h h'
    simp [allBuckets, bucketAt, Boundaries.startAt, Boundaries.stopAt,
      Tally.getElem_toList]
    rfl

theorem buckets_eq_map [Count κ] (histogram : Histogram κ boundaries) :
    histogram.buckets =
      ((List.finRange (boundaries.size + 1)).filter fun i =>
        Count.isPositive (histogram.counts.get i)).map histogram.bucketAt := by
  rw [buckets, allBuckets_eq, List.filter_map]
  rfl

theorem buckets_eq (histogram : Histogram Int boundaries) :
    histogram.buckets =
      ((List.finRange (boundaries.size + 1)).filter fun i =>
        decide (0 < histogram.counts.get i)).map histogram.bucketAt := by
  simp only [buckets_eq_map, Count.isPositive_int]

end Histogram

namespace Collector

variable {boundaries : Boundaries}

theorem isOk_record? (collector : Collector boundaries) :
    collector.record?.isOk = collector.durations.buckets.all Bucket.isRecordable := by
  have hbuckets : collector.durations.buckets.all (fun bucket => bucket.record?.isOk) =
      collector.durations.buckets.all Bucket.isRecordable := by
    rw [Bool.eq_iff_iff, List.all_eq_true, List.all_eq_true]
    refine forall₂_congr fun bucket hbucket => ?_
    have hpositive := (List.mem_filter.mp hbucket).2
    rw [Count.isPositive_int, decide_eq_true_eq] at hpositive
    rw [bucket.isOk_record? (Int.le_of_lt hpositive)]
  rw [← hbuckets, ← isOk_mapM, record?]
  cases collector.durations.buckets.mapM Bucket.record? <;> rfl

def operationTime {whole : WholeBoundaries} (collector : Collector whole.toBoundaries) :
    List BucketCount :=
  ((List.finRange (whole.toBoundaries.size + 1)).filter fun i =>
    decide (0 < collector.durations.counts.get i)).map fun i =>
      ⟨(whole.span i).start, (whole.span i).stop, (collector.durations.counts.get i).toNat⟩

theorem record?_toBoundaries {whole : WholeBoundaries}
    (collector : Collector whole.toBoundaries) :
    collector.record? = .ok {
      counters := collector.counters
      failures := collector.failureCounts
      successes := collector.successCounts
      operationTime := collector.operationTime } := by
  have hentries : collector.durations.buckets.mapM Bucket.record? =
      .ok collector.operationTime := by
    rw [Histogram.buckets_eq, List.mapM_map]
    apply mapM_eq_ok_map
    intro i hi
    have hpositive := of_decide_eq_true (List.mem_filter.mp hi).2
    apply Bucket.record?_eq_ok (Int.le_of_lt hpositive)
    · rw [Histogram.bucketAt, whole.startAt_toBoundaries]
      rfl
    · rw [Bucket.readStop, Histogram.bucketAt, whole.stopAt_toBoundaries]
      cases (whole.span i).stop <;> rfl
  rw [record?, hentries]

end Collector

end EasyConnect
