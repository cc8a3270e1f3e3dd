import EasyConnect.Proofs.Boundaries.Whole

namespace EasyConnect

/-! What reading a text gives: boundaries in whole seconds, or an error under the variable's
name. -/

namespace Boundaries

theorem ascend_number_ne_incomparable (lower : Number) (values : List Number)
    (left right : String) :
    ascend lower (values.map .number) ≠ .error (.incomparable left right) := by
  induction values generalizing lower with
  | nil =>
      intro h
      cases h
  | cons upper rest ih =>
      intro h
      simp only [List.map_cons, ascend] at h
      split at h
      · cases h
      · cases hrest : ascend upper (rest.map .number) with
        | ok later =>
            rw [hrest] at h
            cases h
        | error refusal =>
            rw [hrest] at h
            cases h
            exact ih upper hrest

theorem ofValues?_number_ne_incomparable (values : List Number) (left right : String) :
    ofValues? (values.map .number) ≠ .error (.incomparable left right) := by
  cases values with
  | nil =>
      intro h
      cases h
  | cons first rest =>
      intro h
      simp only [List.map_cons, ofValues?] at h
      split at h
      · cases h
      · cases hrest : ascend first (rest.map .number) with
        | ok later =>
            rw [hrest] at h
            cases h
        | error refusal =>
            rw [hrest] at h
            cases h
            exact ascend_number_ne_incomparable first rest left right hrest

theorem eq_toBoundaries {boundaries : Boundaries} {numbers : List Int}
    (h : boundaries.values = numbers.map .int) :
    ∃ whole : WholeBoundaries, whole.values = numbers ∧ boundaries = whole.toBoundaries := by
  obtain ⟨values, hnonempty, hrising⟩ := boundaries
  subst h
  have hascending := List.pairwise_cons.mp (rises_int_iff.mp hrising)
  exact ⟨⟨numbers, fun hnil => hnonempty (by rw [hnil, List.map_nil]),
    hascending.1, hascending.2⟩, rfl, rfl⟩

theorem configure_eq_ok {setting : String} {values : List Value} {boundaries : Boundaries}
    (h : configure setting values = .ok boundaries) : ofValues? values = .ok boundaries := by
  unfold configure at h
  cases hvalues : ofValues? values with
  | ok accepted =>
      rw [hvalues] at h
      cases h
      rfl
  | error refusal =>
      rw [hvalues] at h
      cases h

theorem configure_eq_error {setting : String} {values : List Value} {error : ConfigError}
    (h : configure setting values = .error error) :
    ∃ refusal, ofValues? values = .error refusal ∧
      error = ⟨.refused refusal, some setting⟩ := by
  unfold configure at h
  cases hvalues : ofValues? values with
  | ok accepted =>
      rw [hvalues] at h
      cases h
  | error refusal =>
      rw [hvalues] at h
      cases h
      exact ⟨refusal, rfl, rfl⟩

theorem configure_number (setting : String) (boundaries : Boundaries) :
    configure setting (boundaries.values.map .number) = .ok boundaries := by
  rw [configure, ofValues?_number]

theorem read_cases (raw : String) :
    read raw = .error ⟨.unreadable raw, some bucketsVariable⟩ ∨
      ∃ numbers : List Int, read raw =
        configure bucketsVariable ((numbers.map Number.int).map .number) := by
  unfold read
  cases (fields raw).mapM Numeral.read? with
  | none => exact .inl rfl
  | some numbers => exact .inr ⟨numbers, by rw [List.map_map]; rfl⟩

theorem read_eq_ok {raw : String} {boundaries : Boundaries} (h : read raw = .ok boundaries) :
    ∃ whole : WholeBoundaries, boundaries = whole.toBoundaries := by
  rcases read_cases raw with hunreadable | ⟨numbers, hnumbers⟩
  · rw [hunreadable] at h
    cases h
  · rw [hnumbers] at h
    obtain ⟨whole, -, hwhole⟩ := eq_toBoundaries (values_of_numbers (configure_eq_ok h))
    exact ⟨whole, hwhole⟩

theorem read_eq_error {raw : String} {error : ConfigError} (h : read raw = .error error) :
    error.setting = some bucketsVariable ∧
      ∀ left right, error.cause ≠ .refused (.incomparable left right) := by
  rcases read_cases raw with hunreadable | ⟨numbers, hnumbers⟩
  · rw [hunreadable] at h
    cases h
    refine ⟨rfl, ?_⟩
    intro left right hcause
    cases hcause
  · rw [hnumbers] at h
    obtain ⟨refusal, hrefusal, rfl⟩ := configure_eq_error h
    refine ⟨rfl, ?_⟩
    intro left right hcause
    cases hcause
    exact ofValues?_number_ne_incomparable _ left right hrefusal

end Boundaries

end EasyConnect
