import EasyConnect.Dictionary
import EasyConnect.Histogram.Sample

namespace EasyConnect

/-! Histograms that keep a count only for the buckets that something was added to. -/

structure SparseHistogram (κ : Type) (boundaries : Boundaries) where
  counts : Dictionary (Fin (boundaries.size + 1)) κ

namespace SparseHistogram

variable {boundaries : Boundaries}

def empty (boundaries : Boundaries) : SparseHistogram κ boundaries :=
  ⟨.empty⟩

def clear (_ : SparseHistogram κ boundaries) : SparseHistogram κ boundaries :=
  empty boundaries

def setCount (histogram : SparseHistogram κ boundaries) (sample : Number) (count : κ) :
    SparseHistogram κ boundaries :=
  ⟨histogram.counts.set (boundaries.bucketIndex sample) count⟩

variable [Count κ]

def count (histogram : SparseHistogram κ boundaries) (sample : Number) : κ :=
  histogram.counts.getD (boundaries.bucketIndex sample) Count.zero

def buckets (histogram : SparseHistogram κ boundaries) : List (Bucket κ) :=
  ((histogram.counts.sorted Fin.val).filter fun entry => Count.isPositive entry.2).map
    fun (i, count) => ⟨boundaries.startAt i, boundaries.stopAt i, count⟩

def numNonEmpty (histogram : SparseHistogram κ boundaries) : Nat :=
  histogram.counts.entries.countP fun entry => Count.isPositive entry.2

def text (histogram : SparseHistogram κ boundaries) : String :=
  "\x7b" ++
    ", ".intercalate
      (histogram.buckets.map fun bucket =>
        bucket.label ++ "=" ++ (Count.number bucket.count).text) ++ "\x7d"

def written (histogram : SparseHistogram κ boundaries) : String :=
  "IntHistogram(boundaries=" ++ boundaries.written ++ ", buckets=" ++ histogram.text ++ ")"

def increment (histogram : SparseHistogram Int boundaries) (sample : Number) (amount : Int) :
    SparseHistogram Int boundaries :=
  histogram.setCount sample (histogram.count sample + amount)

def incrementValue (histogram : SparseHistogram Amount boundaries) (sample amount : Value) :
    Except SampleFault (SparseHistogram Amount boundaries) := do
  let sample ← boundaries.sample sample
  let total := histogram.count sample
  let amount ← total.ofValue amount
  return histogram.setCount sample (← total.add amount)

def countValue (histogram : SparseHistogram Amount boundaries) (sample : Value) :
    Except SampleFault Amount :=
  (boundaries.sample sample).map histogram.count

end SparseHistogram

end EasyConnect
