import EasyConnect.Proofs.Collector.Traces

namespace EasyConnect

/-! What becomes of a value that is handed in as a status. It is counted under the one status
whose code it equals, and ignored if it equals none. Lists and objects, which no code can be
looked up by, are not ignored: the call fails. -/

theorem Number.place?_of_integer? {number : Number} {n : Int}
    (h : number.integer? = some n) : number.place? = some (.ofInt n) := by
  obtain ⟨place, hplace, hinteger⟩ := Option.bind_eq_some_iff.mp h
  rw [hplace, Place.integer?_eq_some_iff.mp hinteger]

theorem Number.equals_of_integer? {first second : Number} {n : Int}
    (h : first.integer? = some n) (h' : second.integer? = some n) :
    first.equals second = true := by
  rw [equals, place?_of_integer? h, place?_of_integer? h']
  exact decide_eq_true rfl

theorem FailureCode.code_ne (failure : FailureCode) (success : SuccessCode) :
    failure.code ≠ success.code := by
  have hnegative : failure.code < 0 := by
    simp only [FailureCode.code]
    omega
  have hnatural : 0 ≤ success.code := Int.natCast_nonneg _
  omega

namespace Value

def isKey : Value → Bool
  | .list _ | .object _ => false
  | _ => true

theorem codeKey_of_isKey {value : Value} (h : value.isKey = true) :
    value.codeKey = .ok value.integer? := by
  cases value with
  | list items => cases h
  | object members => cases h
  | _ => rfl

theorem codeKey_of_not_isKey {value : Value} (h : value.isKey = false) :
    value.codeKey = .error ⟨value.kind⟩ := by
  cases value with
  | list items => rfl
  | object members => rfl
  | _ => cases h

theorem eq_of_equals_int {value : Value} {m n : Int} (h : value.equals (.int m) = true)
    (h' : value.equals (.int n) = true) : m = n :=
  Option.some.inj ((equals_int_iff.mp h).symm.trans (equals_int_iff.mp h'))

theorem equals_of_equals_int {first second : Value} {n : Int}
    (h : first.equals (.int n) = true) (h' : second.equals (.int n) = true) :
    first.equals second = true := by
  have hfirst := equals_int_iff.mp h
  have hsecond := equals_int_iff.mp h'
  cases first with
  | number m =>
      cases second with
      | number n => exact Number.equals_of_integer? hfirst hsecond
      | _ => cases hsecond
  | _ => cases hfirst

end Value

namespace Step

variable {boundaries : Boundaries}

theorem adds_failure_slot_iff {value : Value} {slot : Slot boundaries} :
    (failure value).adds slot = true ↔
      ∃ code : FailureCode, value.equals (.int code.code) = true ∧ .failure code = slot := by
  rw [adds_failure_iff]
  simp only [FailureCode.ofValue?_eq_ok_some_iff]

theorem adds_success_slot_iff {value : Value} {slot : Slot boundaries} :
    (success value).adds slot = true ↔
      ∃ code : SuccessCode, value.equals (.int code.code) = true ∧ .success code = slot := by
  rw [adds_success_iff]
  simp only [SuccessCode.ofValue?_eq_ok_some_iff]

theorem countP_adds_both (value : Value) :
    ∃ call : Step, ∀ slot : Slot boundaries,
      [failure value, success value].countP (adds slot) = if call.adds slot then 1 else 0 := by
  by_cases hfailure : ∃ code : FailureCode, value.equals (.int code.code) = true
  · refine ⟨failure value, fun slot => ?_⟩
    have hnone : (success value).adds slot = false := by
      rw [Bool.eq_false_iff, ne_eq, adds_success_slot_iff]
      rintro ⟨status, hsuccess, -⟩
      obtain ⟨code, hcode⟩ := hfailure
      exact code.code_ne status (Value.eq_of_equals_int hcode hsuccess)
    rw [List.countP_cons, List.countP_singleton, hnone, if_neg Bool.false_ne_true, Nat.zero_add]
  · refine ⟨success value, fun slot => ?_⟩
    have hnone : (failure value).adds slot = false := by
      rw [Bool.eq_false_iff, ne_eq, adds_failure_slot_iff]
      rintro ⟨code, hcode, -⟩
      exact hfailure ⟨code, hcode⟩
    rw [List.countP_cons, List.countP_singleton, hnone, if_neg Bool.false_ne_true, Nat.add_zero]

theorem adds_unique {step : Step} {first second : Slot boundaries}
    (h : step.adds first = true) (h' : step.adds second = true) : first = second := by
  cases (Collector.empty boundaries).effect step with
  | bumped target state adds keeps => exact ((adds first).mp h).symm.trans ((adds second).mp h')
  | unchanged state adds keeps => cases (adds first).symm.trans h
  | emptied state adds resets => cases (adds first).symm.trans h

theorem exists_entry (step : Step) :
    ∃ entry : Option (Slot boundaries), ∀ slot, step.adds slot = true ↔ entry = some slot := by
  by_cases hadds : ∃ slot : Slot boundaries, step.adds slot = true
  · obtain ⟨entry, hentry⟩ := hadds
    refine ⟨some entry, fun slot => ?_⟩
    rw [Option.some_inj]
    exact ⟨fun h => adds_unique hentry h, fun h => h ▸ hentry⟩
  · refine ⟨none, fun slot => ?_⟩
    exact ⟨fun h => absurd ⟨slot, h⟩ hadds, nofun⟩

end Step

namespace Collector

variable {boundaries : Boundaries}

/-- What a call does that hands in a value as one of several statuses, each with a code and with a
slot that it is counted in. -/
structure Takes {γ : Type} (collector : Collector boundaries) (value : Value) (call : Step)
    (code : γ → Int) (slot : γ → Slot boundaries) : Prop where
  returns : value.isKey = true → (collector.step call).2.answer = .ok .done
  fails : value.isKey = false →
    collector.step call = (collector, .failed (.unfitKey ⟨value.kind⟩))
  counts_iff : ∀ status, value.equals (.int (code status)) = true ↔
    ∀ other, (collector.step call).1.held other =
      collector.held other + if slot status = other then 1 else 0
  ignores : (∀ status, value.equals (.int (code status)) = false) →
    (collector.step call).1 = collector
  alike : ∀ (status : γ) (other : Value), value.equals (.int (code status)) = true →
    other.equals (.int (code status)) = true → value.equals other = true

theorem takes_of_adds {γ : Type} {collector : Collector boundaries} {value : Value}
    {call : Step} {code : γ → Int} {slot : γ → Slot boundaries}
    (hslot : Function.Injective slot)
    (hcode : ∀ status other, code status = code other → status = other)
    (hreturns : value.isKey = true → (collector.step call).2.answer = .ok .done)
    (hfails : value.isKey = false →
      collector.step call = (collector, .failed (.unfitKey ⟨value.kind⟩)))
    (hkeeps : call.resets = false)
    (hadds : ∀ other, call.adds other = true ↔
      ∃ status, value.equals (.int (code status)) = true ∧ slot status = other) :
    collector.Takes value call code slot := by
  have hheld (other : Slot boundaries) : (collector.step call).1.held other =
      collector.held other + if call.adds other then 1 else 0 := by
    rw [held_step, hkeeps, Bool.false_and, if_neg Bool.false_ne_true]
  have hinv (status : γ) : call.adds (slot status) = true ↔
      value.equals (.int (code status)) = true := by
    rw [hadds]
    constructor
    · rintro ⟨found, hfound, heq⟩
      rwa [← hslot heq]
    · exact fun h => ⟨status, h, rfl⟩
  constructor
  case returns => exact hreturns
  case fails => exact hfails
  case counts_iff =>
    intro status
    constructor
    · intro hequals other
      have hother : call.adds other = true ↔ slot status = other := by
        rw [hadds]
        constructor
        · rintro ⟨found, hfound, rfl⟩
          rw [hcode status found (Value.eq_of_equals_int hequals hfound)]
        · exact fun h => ⟨status, hequals, h⟩
      rw [hheld]
      simp only [hother]
    · intro hall
      have hsame := hall (slot status)
      rw [hheld, if_pos rfl] at hsame
      by_contra hnot
      rw [if_neg (fun h => hnot ((hinv status).mp h))] at hsame
      omega
  case ignores =>
    intro hnone
    apply step_eq_self
    · intro other
      rw [Bool.eq_false_iff, ne_eq, hadds]
      rintro ⟨status, hequals, -⟩
      rw [hnone status] at hequals
      cases hequals
    · rw [hkeeps, Bool.false_and]
  case alike => exact fun _ _ h h' => Value.equals_of_equals_int h h'

theorem takes_of_lookup {γ : Type} {collector : Collector boundaries} {value : Value}
    {call : Step} {code : γ → Int} {slot : γ → Slot boundaries} {ofCode? : Int → Option γ}
    {found : Except UnfitKey (Option γ)}
    (hfound : found = value.codeKey.map fun key => key.bind ofCode?)
    (hunfit : ∀ key, found = .error key →
      collector.step call = (collector, .failed (.unfitKey key)))
    (hanswer : ∀ status?, found = .ok status? → (collector.step call).2.answer = .ok .done)
    (hslot : Function.Injective slot)
    (hcode : ∀ status other, code status = code other → status = other)
    (hkeeps : call.resets = false)
    (hadds : ∀ other, call.adds other = true ↔
      ∃ status, value.equals (.int (code status)) = true ∧ slot status = other) :
    collector.Takes value call code slot := by
  apply takes_of_adds hslot hcode
  · intro hkey
    rw [Value.codeKey_of_isKey hkey] at hfound
    exact hanswer _ hfound
  · intro hkey
    rw [Value.codeKey_of_not_isKey hkey] at hfound
    exact hunfit _ hfound
  · exact hkeeps
  · exact hadds

theorem takes_failure (collector : Collector boundaries) (value : Value) :
    collector.Takes value (.failure value) FailureCode.code Slot.failure := by
  have hfound : FailureCode.ofValue? value =
      value.codeKey.map fun key => key.bind FailureCode.ofCode? := rfl
  apply takes_of_lookup hfound
  · intro key hkey
    simp only [step, failure, hkey]
  · intro status? hstatus
    simp only [step, failure, hstatus]
    cases status? <;> rfl
  · exact fun _ _ h => Slot.failure.inj h
  · exact fun _ _ => FailureCode.code_injective
  · rfl
  · exact fun _ => Step.adds_failure_slot_iff

theorem takes_success (collector : Collector boundaries) (value : Value) :
    collector.Takes value (.success value) SuccessCode.code Slot.success := by
  have hfound : SuccessCode.ofValue? value =
      value.codeKey.map fun key => key.bind SuccessCode.ofCode? := rfl
  apply takes_of_lookup hfound
  · intro key hkey
    simp only [step, success, hkey]
  · intro status? hstatus
    simp only [step, success, hstatus]
    cases status? <;> rfl
  · exact fun _ _ h => Slot.success.inj h
  · exact fun _ _ => SuccessCode.code_injective
  · rfl
  · exact fun _ => Step.adds_success_slot_iff

theorem held_run_of_keeps (collector : Collector boundaries) {steps : List Step}
    (h : ∀ step ∈ steps, step.resets = false) (slot : Slot boundaries) :
    (collector.run steps).1.held slot = collector.held slot + steps.countP (Step.adds slot) := by
  induction steps generalizing collector with
  | nil => exact (Int.add_zero _).symm
  | cons step later ih =>
      have hkeeps := h step List.mem_cons_self
      have hlater := ih (collector.step step).1 fun other hother =>
        h other (List.mem_cons_of_mem _ hother)
      rw [run_cons, hlater, held_step, hkeeps, Bool.false_and, if_neg Bool.false_ne_true,
        List.countP_cons]
      split <;> omega

theorem exists_entry_of_both (collector : Collector boundaries) (value : Value) :
    ∃ entry : Option (Slot boundaries), ∀ calls : List Step,
      calls.Perm [.failure value, .success value] → ∀ slot,
        (collector.run calls).1.held slot =
          collector.held slot + if entry = some slot then 1 else 0 := by
  obtain ⟨call, hcall⟩ : ∃ call : Step, ∀ slot : Slot boundaries,
      [Step.failure value, Step.success value].countP (Step.adds slot) =
        if call.adds slot then 1 else 0 := Step.countP_adds_both value
  obtain ⟨entry, hentry⟩ : ∃ entry : Option (Slot boundaries), ∀ slot,
      call.adds slot = true ↔ entry = some slot := call.exists_entry
  refine ⟨entry, fun calls hcalls slot => ?_⟩
  have hkeeps (step : Step) (hstep : step ∈ calls) : step.resets = false := by
    rcases List.mem_pair.mp (hcalls.mem_iff.mp hstep) with rfl | rfl <;> rfl
  rw [collector.held_run_of_keeps hkeeps, hcalls.countP_eq, hcall]
  simp only [hentry]
  split <;> rfl

/-- Whatever a collector holds, a value is handed in as a failure or as a success without harm
unless it is a list or an object. It is counted where it equals a code, once and under that code,
in at most one of the two ways; otherwise nothing changes. -/
theorem statuses_counted_or_ignored (collector : Collector boundaries) (value : Value) :
    collector.Takes value (.failure value) FailureCode.code Slot.failure ∧
      collector.Takes value (.success value) SuccessCode.code Slot.success ∧
      (∀ (failure : FailureCode) (success : SuccessCode),
        ¬(value.equals (.int failure.code) = true ∧ value.equals (.int success.code) = true)) ∧
      ∃ entry : Option (Slot boundaries), ∀ calls : List Step,
        calls.Perm [.failure value, .success value] → ∀ slot,
          (collector.run calls).1.held slot =
            collector.held slot + if entry = some slot then 1 else 0 := by
  refine ⟨collector.takes_failure value, collector.takes_success value, ?_, ?_⟩
  · rintro failure success ⟨hfailure, hsuccess⟩
    exact failure.code_ne success (Value.eq_of_equals_int hfailure hsuccess)
  · exact collector.exists_entry_of_both value

theorem list_not_ignored :
    ¬∀ value : Value, ((empty .standard).step (.failure value)).2.answer = .ok .done := by
  intro h
  have hfault : ((empty .standard).step (.failure (.list []))).2.answer =
      .error (.unfitKey ⟨"list"⟩) := rfl
  rw [h] at hfault
  cases hfault

end Collector

end EasyConnect
