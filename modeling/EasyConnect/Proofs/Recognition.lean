import EasyConnect.Recognition
import EasyConnect.Value.Equality

namespace EasyConnect

/-! A code is recognised in exactly the values that equal it as numbers. -/

theorem Place.integer?_eq_some_iff {place : Place} {n : Int} :
    place.integer? = some n ↔ place = .ofInt n := by
  cases place with
  | below => simp [Place.integer?, Place.ofInt]
  | above => simp [Place.integer?, Place.ofInt]
  | point q =>
      simp only [Place.integer?, Place.ofInt, Place.point.injEq]
      constructor
      · intro h
        split at h
        · rename_i hden
          cases h
          exact (Rat.ext rfl hden : q = (q.num : Rat))
        · cases h
      · rintro rfl
        rfl

theorem Number.equals_int_iff {number : Number} {n : Int} :
    number.equals (.int n) = true ↔ number.integer? = some n := by
  unfold Number.equals Number.integer?
  cases number.place? with
  | none => simp
  | some place =>
      simp only [Number.place?_int, decide_eq_true_eq, Option.bind_some]
      exact Place.integer?_eq_some_iff.symm

namespace Value

theorem equals_int_iff {value : Value} {n : Int} :
    value.equals (.int n) = true ↔ value.integer? = some n := by
  cases value with
  | number number => exact Number.equals_int_iff
  | null => simp [equals, integer?]
  | text s => simp [equals, integer?]
  | bytes b => simp [equals, integer?]
  | list items => simp [equals, integer?]
  | object members => simp [equals, integer?]

theorem codeKey_cases (value : Value) :
    value.codeKey = .ok value.integer? ∨
      (∃ key, value.codeKey = .error key) ∧ value.integer? = none := by
  cases value with
  | list items => exact .inr ⟨⟨_, rfl⟩, rfl⟩
  | object members => exact .inr ⟨⟨_, rfl⟩, rfl⟩
  | null => exact .inl rfl
  | number n => exact .inl rfl
  | text s => exact .inl rfl
  | bytes b => exact .inl rfl

theorem map_codeKey_eq_ok_some_iff {γ : Type} {ofCode? : Int → Option γ} {code : γ → Int}
    (hcode : ∀ {n : Int} {c : γ}, ofCode? n = some c ↔ code c = n)
    {value : Value} {c : γ} :
    (value.codeKey.map fun key => key.bind ofCode?) = .ok (some c) ↔
      value.equals (.int (code c)) = true := by
  rw [equals_int_iff]
  rcases value.codeKey_cases with hkey | ⟨⟨key, hkey⟩, hnone⟩
  · rw [hkey]
    simp only [Except.map, Except.ok.injEq, Option.bind_eq_some_iff]
    constructor
    · rintro ⟨n, hn, hc⟩
      rw [hn, hcode.mp hc]
    · intro hn
      exact ⟨code c, hn, hcode.mpr rfl⟩
  · rw [hkey, hnone]
    simp [Except.map]

end Value

theorem SuccessCode.ofValue?_eq_ok_some_iff {value : Value} {code : SuccessCode} :
    ofValue? value = .ok (some code) ↔ value.equals (.int code.code) = true :=
  Value.map_codeKey_eq_ok_some_iff ofCode?_eq_some_iff

theorem FailureCode.ofValue?_eq_ok_some_iff {value : Value} {code : FailureCode} :
    ofValue? value = .ok (some code) ↔ value.equals (.int code.code) = true :=
  Value.map_codeKey_eq_ok_some_iff ofCode?_eq_some_iff

end EasyConnect
