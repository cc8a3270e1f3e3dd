import EasyConnect.Binary64.Sum
import EasyConnect.Histogram
import EasyConnect.Value

namespace EasyConnect

/-! Histograms of samples and amounts as callers hand them in.  Any number is a sample and any
number is an amount; a bucket that a binary64 amount was added to no longer counts in integers. -/

inductive SampleFault
  | incomparable (left right : String)
  | unaddable (left right : String)
  | tooLarge

def SampleFault.message : SampleFault → String
  | .incomparable left right =>
      "'<' not supported between instances of '" ++ left ++ "' and '" ++ right ++ "'"
  | .unaddable left right =>
      "unsupported operand type(s) for +: '" ++ left ++ "' and '" ++ right ++ "'"
  | .tooLarge => "int too large to convert to float"

namespace Boundaries

def middle (boundaries : Boundaries) : Number :=
  boundaries.values.get
    ⟨boundaries.size / 2, Nat.div_lt_self boundaries.size_pos Nat.one_lt_two⟩

def sample (boundaries : Boundaries) : Value → Except SampleFault Number
  | .number n => .ok n
  | value => .error (.incomparable value.kind boundaries.middle.kind)

end Boundaries

inductive Amount
  | whole (n : Int)
  | float (x : Binary64)
  deriving DecidableEq

namespace Amount

def number : Amount → Number
  | .whole n => .int n
  | .float x => .float x

instance : Count Amount where
  zero := .whole 0
  number := number

def ofNumber : Number → Amount
  | .int n => .whole n
  | .bool b => .whole b.toInt
  | .member m => .whole m.code
  | .float x => .float x

def ofValue (total : Amount) : Value → Except SampleFault Amount
  | .number n => .ok (ofNumber n)
  | value => .error (.unaddable total.number.kind value.kind)

def toFloat : Amount → Except SampleFault Binary64
  | .whole n =>
      match Binary64.ofInt? n with
      | some x => .ok x
      | none => .error .tooLarge
  | .float x => .ok x

/-- Whole amounts add up exactly; if either is not whole, both are rounded to binary64 numbers
first. -/
def add : Amount → Amount → Except SampleFault Amount
  | .whole m, .whole n => .ok (.whole (m + n))
  | first, second => do
      let x ← first.toFloat
      let y ← second.toFloat
      return .float (x.add y)

end Amount

namespace Histogram

variable {boundaries : Boundaries}

def incrementValue (histogram : Histogram Amount boundaries) (sample amount : Value) :
    Except SampleFault (Histogram Amount boundaries) := do
  let sample ← boundaries.sample sample
  let total := histogram.count sample
  let amount ← total.ofValue amount
  return histogram.setCount sample (← total.add amount)

def countValue (histogram : Histogram Amount boundaries) (sample : Value) :
    Except SampleFault Amount :=
  (boundaries.sample sample).map histogram.count

def ofWhole (histogram : Histogram Int boundaries) : Histogram Amount boundaries :=
  ⟨histogram.counts.map .whole⟩

@[simp] theorem count_ofWhole (histogram : Histogram Int boundaries) (sample : Number) :
    histogram.ofWhole.count sample = .whole (histogram.count sample) := by
  simp [ofWhole, count]

theorem incrementValue_ofWhole
    (histogram : Histogram Int boundaries) (sample : Number) (amount : Int) :
    histogram.ofWhole.incrementValue (.number sample) (.int amount) =
      .ok (histogram.increment sample amount).ofWhole := by
  have h : (histogram.increment sample amount).ofWhole =
      histogram.ofWhole.setCount sample (.whole (histogram.count sample + amount)) := by
    simp only [ofWhole, increment, setCount, mk.injEq]
    ext i
    simp only [Tally.get_map, Tally.get_set]
    split <;> rfl
  rw [h]
  simp only [incrementValue, Boundaries.sample, Amount.ofValue, Amount.ofNumber, count_ofWhole,
    Amount.add, bind, Except.bind, pure, Except.pure]

end Histogram

end EasyConnect
