import EasyConnect.Boundaries
import EasyConnect.Tally
import EasyConnect.Word

namespace EasyConnect

/-! Histograms: samples counted in the half-open buckets between boundaries. -/

namespace Boundaries

/-- Halves the range until it is empty.  Below `lo` no value met on the way exceeds the sample, and
from `hi` on every one does. -/
def search (sample : Number) (values : List Number) (lo hi : Nat) : Nat :=
  if h : lo < hi ∧ hi ≤ values.length then
    let middle := (lo + hi) / 2
    have inside : middle < values.length := by omega
    if sample.lt values[middle] then search sample values lo middle
    else search sample values (middle + 1) hi
  else lo
termination_by hi - lo

theorem search_le (sample : Number) (values : List Number) (lo hi : Nat) (h : lo ≤ hi) :
    search sample values lo hi ≤ hi := by
  fun_induction search sample values lo hi with
  | case1 lo hi hrange middle inside hlt ih =>
      have := ih (by omega)
      omega
  | case2 lo hi hrange middle inside hlt ih => exact ih (by omega)
  | case3 lo hi hrange => exact h

/-- The bucket that holds a sample; samples below zero share the first. -/
def bucketIndex (boundaries : Boundaries) (sample : Number) : Fin (boundaries.size + 1) :=
  ⟨search sample boundaries.values 0 boundaries.size,
    Nat.lt_succ_of_le (search_le _ _ _ _ (Nat.zero_le _))⟩

inductive IndexFault
  | outOfRange
  | tooWide

def IndexFault.message : IndexFault → String
  | .outOfRange => "tuple index out of range"
  | .tooWide => "cannot fit 'int' into an index-sized integer"

/-- The boundary at an index; negative indexes count from the end. -/
def at? (boundaries : Boundaries) (index : Int) : Except IndexFault Number :=
  let position := if index < 0 then index + boundaries.size else index
  match if position < 0 then none else boundaries.values[position.toNat]? with
  | some value => .ok value
  | none => .error (if fitsWord index then .outOfRange else .tooWide)

theorem at?_eq_ok {boundaries : Boundaries} {i : Nat} {value : Number}
    (h : boundaries.values[i]? = some value) : boundaries.at? i = .ok value := by
  have hnonneg : ¬(i : Int) < 0 := Int.not_lt.mpr (Int.natCast_nonneg i)
  simp only [at?, if_neg hnonneg, Int.toNat_natCast, h]

def bucketStart (boundaries : Boundaries) (index : Int) : Except IndexFault Number :=
  if index = 0 then .ok (.int 0) else boundaries.at? (index - 1)

def bucketStop (boundaries : Boundaries) (index : Int) :
    Except IndexFault (Option Number) :=
  if index < boundaries.size then (boundaries.at? index).map some else .ok none

end Boundaries

/-- What a histogram counts in: every count stands for a number, and counting starts at zero. -/
class Count (κ : Type) where
  zero : κ
  number : κ → Number

instance : Count Int where
  zero := 0
  number := .int

def Count.isPositive [Count κ] (count : κ) : Bool :=
  (Number.int 0).lt (number count)

@[simp] theorem Count.zero_int : (zero : Int) = 0 := rfl

@[simp] theorem Count.number_int (n : Int) : number n = .int n := rfl

@[simp] theorem Count.isPositive_int (n : Int) : isPositive n = decide (0 < n) := by
  rw [isPositive, number_int, Number.lt_int_int]

structure Bucket (κ : Type) where
  start : Number
  stop : Option Number
  count : κ

def Bucket.label (bucket : Bucket κ) : String :=
  "[" ++ bucket.start.text ++ "," ++
    (match bucket.stop with
      | some stop => stop.text
      | none => "inf") ++ ")"

structure Histogram (κ : Type) (boundaries : Boundaries) where
  counts : Tally κ (boundaries.size + 1)

namespace Histogram

variable {boundaries : Boundaries}

def count (histogram : Histogram κ boundaries) (sample : Number) : κ :=
  histogram.counts.get (boundaries.bucketIndex sample)

def setCount (histogram : Histogram κ boundaries) (sample : Number) (count : κ) :
    Histogram κ boundaries :=
  ⟨histogram.counts.set (boundaries.bucketIndex sample) count⟩

def increment (histogram : Histogram Int boundaries) (sample : Number) (amount : Int) :
    Histogram Int boundaries :=
  histogram.setCount sample (histogram.count sample + amount)

@[simp] theorem count_setCount
    (histogram : Histogram κ boundaries) (sample other : Number) (count : κ) :
    (histogram.setCount sample count).count other =
      if boundaries.bucketIndex sample = boundaries.bucketIndex other then count
      else histogram.count other := by
  simp [setCount, Histogram.count]

@[simp] theorem count_increment
    (histogram : Histogram Int boundaries) (sample other : Number) (amount : Int) :
    (histogram.increment sample amount).count other =
      histogram.count other +
        if boundaries.bucketIndex sample = boundaries.bucketIndex other then amount
        else 0 := by
  rw [increment, count_setCount]
  split
  · rename_i h
    simp [Histogram.count, h]
  · simp

def allBuckets (histogram : Histogram κ boundaries) : List (Bucket κ) :=
  List.zipWith (fun bounds count => ⟨bounds.1, bounds.2, count⟩)
    (boundaries.starts.zip boundaries.stops) histogram.counts.toList

variable [Count κ]

def empty (boundaries : Boundaries) : Histogram κ boundaries :=
  ⟨Tally.uniform Count.zero _⟩

def clear (_ : Histogram κ boundaries) : Histogram κ boundaries :=
  empty boundaries

/-- The buckets with a positive count, in ascending order. -/
def buckets (histogram : Histogram κ boundaries) : List (Bucket κ) :=
  histogram.allBuckets.filter fun bucket => Count.isPositive bucket.count

def numNonEmpty (histogram : Histogram κ boundaries) : Nat :=
  histogram.counts.toList.countP Count.isPositive

def text (histogram : Histogram κ boundaries) : String :=
  "\x7b" ++
    ", ".intercalate
      (histogram.buckets.map fun bucket =>
        bucket.label ++ "=" ++ (Count.number bucket.count).text) ++ "\x7d"

def written (histogram : Histogram κ boundaries) : String :=
  "IntHistogram(boundaries=" ++ boundaries.written ++ ", buckets=" ++ histogram.text ++ ")"

@[simp] theorem count_empty (sample : Number) :
    (empty boundaries : Histogram κ boundaries).count sample = Count.zero := by
  simp [empty, count]

end Histogram

end EasyConnect
