import EasyConnect.Proofs.Collector.Slot
import Mathlib.Data.List.DropRight

namespace EasyConnect

/-! A collector after a run holds what the steps since its last reset asked it to count. -/

namespace Step

def emptied (taken : Step × Outcome) : Bool :=
  taken.1.resets && taken.2.succeeded

end Step

def sinceReset (taken : List (Step × Outcome)) : List Step :=
  (taken.rtakeWhile fun taken => !Step.emptied taken).map Prod.fst

theorem sinceReset_concat (taken : List (Step × Outcome)) (last : Step × Outcome) :
    sinceReset (taken ++ [last]) =
      if Step.emptied last then [] else sinceReset taken ++ [last.1] := by
  unfold sinceReset
  rw [List.rtakeWhile_concat]
  cases Step.emptied last <;> simp

theorem sinceReset_eq_of_succeeded {taken : List (Step × Outcome)}
    (h : ∀ t ∈ taken, t.1.resets = true → t.2.succeeded = true) :
    sinceReset taken = (taken.map Prod.fst).rtakeWhile fun step => !step.resets := by
  induction taken using List.reverseRecOn with
  | nil => rfl
  | append_singleton taken last ih =>
      have hlast : Step.emptied last = last.1.resets := by
        unfold Step.emptied
        cases hresets : last.1.resets with
        | false => rfl
        | true => rw [h last (by simp) hresets, Bool.and_true]
      rw [sinceReset_concat, List.map_append, List.map_singleton, List.rtakeWhile_concat,
        ih fun t ht => h t (List.mem_append_left _ ht), hlast]
      cases last.1.resets <;> rfl

namespace Collector

variable {boundaries : Boundaries}

def transcript (collector : Collector boundaries) (steps : List Step) :
    List (Step × Outcome) :=
  steps.zip (collector.run steps).2

@[simp] theorem transcript_nil (collector : Collector boundaries) :
    collector.transcript [] = [] := rfl

@[simp] theorem transcript_cons (collector : Collector boundaries) (step : Step)
    (later : List Step) :
    collector.transcript (step :: later) =
      (step, (collector.step step).2) :: (collector.step step).1.transcript later := rfl

theorem transcript_concat (collector : Collector boundaries) (steps : List Step)
    (last : Step) :
    collector.transcript (steps ++ [last]) =
      collector.transcript steps ++ [(last, ((collector.run steps).1.step last).2)] := by
  induction steps generalizing collector with
  | nil => rfl
  | cons step later ih =>
      simp only [List.cons_append, transcript_cons, ih, run_cons]

theorem map_fst_transcript (collector : Collector boundaries) (steps : List Step) :
    (collector.transcript steps).map Prod.fst = steps := by
  induction steps generalizing collector with
  | nil => rfl
  | cons step later ih => simp only [transcript_cons, List.map_cons, ih]

theorem run_concat_fst (collector : Collector boundaries) (steps : List Step)
    (last : Step) :
    (collector.run (steps ++ [last])).1 = ((collector.run steps).1.step last).1 := by
  rw [run_append]
  rfl

def Holds (collector : Collector boundaries) (steps : List Step) : Prop :=
  ∀ slot : Slot boundaries, collector.held slot = steps.countP (Step.adds slot)

theorem holds_empty : (empty boundaries).Holds [] :=
  held_empty

theorem Holds.step {collector : Collector boundaries} {before : List Step}
    (h : collector.Holds before) (step : Step) :
    (collector.step step).1.Holds
      (if Step.emptied (step, (collector.step step).2) then [] else before ++ [step]) := by
  intro slot
  rw [held_step, h slot, Step.emptied]
  split
  · rfl
  · rw [List.countP_append, List.countP_singleton, Int.natCast_add]
    cases step.adds slot <;> rfl

/-- A step adds to no slot or empties none, so what came before a reset is never counted again. -/
theorem holds_run (boundaries : Boundaries) (steps : List Step) :
    ((empty boundaries).run steps).1.Holds
      (sinceReset ((empty boundaries).transcript steps)) := by
  induction steps using List.reverseRecOn with
  | nil => exact holds_empty
  | append_singleton steps last ih =>
      rw [run_concat_fst, transcript_concat, sinceReset_concat]
      exact ih.step last

end Collector

end EasyConnect
