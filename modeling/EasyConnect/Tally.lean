namespace EasyConnect

/-! A tally holds one count for each of a fixed number of places. -/

structure Tally (κ : Type) (n : Nat) where
  counts : Vector κ n
  deriving DecidableEq

namespace Tally

def uniform (count : κ) (n : Nat) : Tally κ n :=
  ⟨Vector.replicate n count⟩

def ofFn (f : Fin n → κ) : Tally κ n :=
  ⟨Vector.ofFn f⟩

def get (tally : Tally κ n) (i : Fin n) : κ :=
  tally.counts[i.val]

def set (tally : Tally κ n) (i : Fin n) (count : κ) : Tally κ n :=
  ⟨tally.counts.set i.val count⟩

def map (f : κ → μ) (tally : Tally κ n) : Tally μ n :=
  ⟨tally.counts.map f⟩

def toList (tally : Tally κ n) : List κ :=
  tally.counts.toList

@[ext] theorem ext {first second : Tally κ n} (h : ∀ i, first.get i = second.get i) :
    first = second := by
  cases first
  cases second
  congr
  apply Vector.ext
  intro i hi
  exact h ⟨i, hi⟩

@[simp] theorem get_uniform (count : κ) (i : Fin n) : (uniform count n).get i = count := by
  simp [uniform, get]

@[simp] theorem get_ofFn (f : Fin n → κ) (i : Fin n) : (ofFn f).get i = f i := by
  simp [ofFn, get]

@[simp] theorem get_set (tally : Tally κ n) (i j : Fin n) (count : κ) :
    (tally.set i count).get j = if i = j then count else tally.get j := by
  simp only [set, get, Vector.getElem_set, Fin.ext_iff]

@[simp] theorem get_map (f : κ → μ) (tally : Tally κ n) (i : Fin n) :
    (tally.map f).get i = f (tally.get i) := by
  simp [map, get]

@[simp] theorem length_toList (tally : Tally κ n) : tally.toList.length = n := by
  simp [toList]

theorem getElem_toList (tally : Tally κ n) (i : Nat) (h : i < tally.toList.length) :
    tally.toList[i] = tally.get ⟨i, by simpa using h⟩ := by
  simp [toList, get]

def empty (n : Nat) : Tally Int n :=
  uniform 0 n

def add (tally : Tally Int n) (i : Fin n) (amount : Int) : Tally Int n :=
  tally.set i (tally.get i + amount)

@[simp] theorem get_empty (i : Fin n) : (empty n).get i = 0 := by
  simp [empty]

@[simp] theorem get_add (tally : Tally Int n) (i j : Fin n) (amount : Int) :
    (tally.add i amount).get j = tally.get j + if i = j then amount else 0 := by
  rw [add, get_set]
  split
  · rename_i h
    rw [h]
  · simp

end Tally

end EasyConnect
