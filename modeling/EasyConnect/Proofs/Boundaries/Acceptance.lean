import EasyConnect.Proofs.Configuration

namespace EasyConnect

/-! Which numbers are accepted as boundaries. Only neighbours are compared, and the number that
has no place is found neither at nor below any other. -/

theorem Place.lt_of_le_eq_false {first second : Place} (h : second.le first = false) :
    first.lt second = true := by
  rwa [le, Bool.not_eq_false'] at h

theorem Place.le_eq_false_of_lt {first second : Place} (h : first.lt second = true) :
    second.le first = false := by
  rw [le, h]
  rfl

namespace Number

theorem place?_eq_none_iff {number : Number} : number.place? = none ↔ number = .float .nan := by
  cases number with
  | float x => cases x <;> simp [place?, Binary64.place?]
  | _ => simp [place?]

theorem lt_trans {first second third : Number} (h : first.lt second = true)
    (h' : second.lt third = true) : first.lt third = true := by
  unfold lt at h h' ⊢
  cases hfirst : first.place? with
  | none => simp [hfirst] at h
  | some p =>
      cases hsecond : second.place? with
      | none => simp [hsecond] at h'
      | some q =>
          cases hthird : third.place? with
          | none => simp [hthird, hsecond] at h'
          | some r =>
              simp only [hfirst, hsecond, hthird] at h h' ⊢
              exact Place.lt_trans h h'

theorem le_eq_false_iff {first second : Number} :
    second.le first = false ↔
      first = .float .nan ∨ second = .float .nan ∨ first.lt second = true := by
  rw [← place?_eq_none_iff, ← place?_eq_none_iff]
  unfold le lt
  cases first.place? with
  | none => cases second.place? <;> simp
  | some p =>
      cases second.place? with
      | none => simp
      | some q =>
          simp only [reduceCtorEq, false_or]
          exact ⟨Place.lt_of_le_eq_false, Place.le_eq_false_of_lt⟩

end Number

namespace Boundaries

/-- At least one number, each above zero and each below all that come behind it. -/
structure Ascends (values : List Number) : Prop where
  nonempty : values ≠ []
  positive : ∀ n ∈ values, (Number.int 0).lt n = true
  ascending : values.Pairwise fun first second => first.lt second = true

/-- The same wherever numbers can be compared: with zero in front, every stretch of neighbours
that all have places ascends. -/
def AscendsPiecewise (values : List Number) : Prop :=
  values ≠ [] ∧ ∀ stretch, stretch <:+: .int 0 :: values → .float .nan ∉ stretch →
    stretch.Pairwise fun first second => first.lt second = true

theorem rises_iff_isChain {lower : Number} {values : List Number} :
    rises lower values = true ↔
      (lower :: values).IsChain fun first second => second.le first = false := by
  induction values generalizing lower with
  | nil => simp [rises]
  | cons upper rest ih =>
      rw [rises, Bool.and_eq_true, Bool.not_eq_true', ih, List.isChain_cons_cons]

theorem pairwise_lt_of_isChain {values : List Number} (hplaced : .float .nan ∉ values)
    (h : values.IsChain fun first second => second.le first = false) :
    values.Pairwise fun first second => first.lt second = true := by
  have htrans : IsTrans Number fun first second => first.lt second = true :=
    ⟨fun _ _ _ => Number.lt_trans⟩
  rw [← List.isChain_iff_pairwise]
  apply h.imp_of_mem_imp
  intro first second hfirst hsecond hle
  have hne {number : Number} (hmem : number ∈ values) : number ≠ .float .nan :=
    fun heq => hplaced (heq ▸ hmem)
  rcases Number.le_eq_false_iff.mp hle with heq | heq | hlt
  · exact absurd heq (hne hfirst)
  · exact absurd heq (hne hsecond)
  · exact hlt

theorem isChain_iff_stretches {values : List Number} :
    (values.IsChain fun first second => second.le first = false) ↔
      ∀ stretch, stretch <:+: values → .float .nan ∉ stretch →
        stretch.Pairwise fun first second => first.lt second = true := by
  constructor
  · intro h stretch hstretch hplaced
    have hchain := List.IsChain.infix h hstretch
    exact pairwise_lt_of_isChain hplaced hchain
  · intro h
    -- Two neighbours that have places are a stretch of their own.
    rw [List.isChain_iff_forall_rel_of_append_cons_cons]
    intro first second before behind heq
    rw [Number.le_eq_false_iff]
    by_cases hplaced : .float .nan ∈ [first, second]
    · rcases List.mem_pair.mp hplaced with hfirst | hsecond
      · exact .inl hfirst.symm
      · exact .inr (.inl hsecond.symm)
    · have hinfix : [first, second] <:+: values := ⟨before, behind, by simp [heq]⟩
      have hpair := h _ hinfix hplaced
      rw [List.pairwise_pair] at hpair
      exact .inr (.inr hpair)

variable {values : List Number}

theorem exists_configure_iff (setting : String) :
    (∃ boundaries, configure setting (values.map .number) = .ok boundaries) ↔
      AscendsPiecewise values := by
  rw [AscendsPiecewise, ← isChain_iff_stretches, ← rises_iff_isChain]
  constructor
  · rintro ⟨boundaries, h⟩
    rw [← values_of_numbers (configure_eq_ok h)]
    exact ⟨boundaries.nonempty, boundaries.rising⟩
  · rintro ⟨hnonempty, hrising⟩
    exact ⟨_, configure_number setting ⟨values, hnonempty, hrising⟩⟩

theorem configure_eq_error_of_not_ascends (setting : String) (h : ¬AscendsPiecewise values) :
    ∃ refusal, configure setting (values.map .number) =
        .error ⟨.refused refusal, some setting⟩ ∧
      ∀ left right, refusal ≠ .incomparable left right := by
  cases hconfigure : configure setting (values.map .number) with
  | ok boundaries => exact absurd ((exists_configure_iff setting).mp ⟨boundaries, hconfigure⟩) h
  | error error =>
      obtain ⟨refusal, hrefusal, rfl⟩ := configure_eq_error hconfigure
      refine ⟨refusal, rfl, ?_⟩
      rintro left right rfl
      exact ofValues?_number_ne_incomparable values left right hrefusal

theorem ascendsPiecewise_iff_ascends (hplaced : .float .nan ∉ values) :
    AscendsPiecewise values ↔ Ascends values := by
  constructor
  · rintro ⟨hnonempty, hstretches⟩
    have hall := hstretches _ (List.infix_refl _) (by simp [hplaced])
    rw [List.pairwise_cons] at hall
    exact ⟨hnonempty, hall.1, hall.2⟩
  · rintro ⟨hnonempty, hpositive, hascending⟩
    refine ⟨hnonempty, fun stretch hstretch _ => ?_⟩
    have hall : (Number.int 0 :: values).Pairwise fun first second => first.lt second = true :=
      List.pairwise_cons.mpr ⟨hpositive, hascending⟩
    exact hall.sublist hstretch.sublist

theorem exists_config_iff :
    (∃ config, Config.ofValues (values.map .number) = .ok config) ↔
      AscendsPiecewise values := by
  rw [← exists_configure_iff "duration_buckets", Config.ofValues]
  cases configure "duration_buckets" (values.map .number) <;> simp

/-- Numbers are accepted as boundaries, for a configuration as for a histogram, just if they
ascend wherever they can be compared, which is all the way if each of them has a place. They are
refused under the name of the setting. -/
theorem accepts_exactly_ascending (setting : String) (values : List Number) :
    ((∃ boundaries, configure setting (values.map .number) = .ok boundaries) ↔
        AscendsPiecewise values) ∧
      (.float .nan ∉ values → (AscendsPiecewise values ↔ Ascends values)) ∧
      (¬AscendsPiecewise values → ∃ refusal,
        configure setting (values.map .number) = .error ⟨.refused refusal, some setting⟩ ∧
          ∀ left right, refusal ≠ .incomparable left right) ∧
      ((∃ config, Config.ofValues (values.map .number) = .ok config) ↔
        ∃ boundaries, configure "boundaries" (values.map .number) = .ok boundaries) := by
  refine ⟨exists_configure_iff setting, ascendsPiecewise_iff_ascends,
    configure_eq_error_of_not_ascends setting, ?_⟩
  rw [exists_config_iff, exists_configure_iff]

theorem accepts_exactly_ascending_pairs :
    .float .nan ∉ [Number.int 1, .float (.finite false 5 (-1))] ∧
      (AscendsPiecewise [.int 1, .float (.finite false 5 (-1))] ↔
        Ascends [.int 1, .float (.finite false 5 (-1))]) ∧
      ¬AscendsPiecewise [.int 2, .int 1] ∧
      ∃ refusal, configure "boundaries" ([.int 2, .int 1].map .number) =
          .error ⟨.refused refusal, some "boundaries"⟩ ∧
        ∀ left right, refusal ≠ .incomparable left right := by
  have hplaced : .float .nan ∉ [Number.int 1, .float (.finite false 5 (-1))] := by decide
  have hfalls : ¬AscendsPiecewise [.int 2, .int 1] := by
    rintro ⟨-, hstretches⟩
    have hpair := hstretches [.int 2, .int 1] ⟨[.int 0], [], rfl⟩ (by decide)
    rw [List.pairwise_pair, Number.lt_int_int] at hpair
    cases hpair
  exact ⟨hplaced, (accepts_exactly_ascending "boundaries" _).2.1 hplaced, hfalls,
    (accepts_exactly_ascending "boundaries" _).2.2.1 hfalls⟩

theorem accepts_number_without_place :
    (∃ boundaries, configure "duration_buckets" ([.float .nan].map .number) = .ok boundaries) ∧
      ¬Ascends [.float .nan] := by
  constructor
  · exact ⟨_, configure_number "duration_buckets"
      ⟨[.float .nan], List.cons_ne_nil _ _, by decide +kernel⟩⟩
  · intro h
    have hpositive := h.positive (.float .nan) List.mem_cons_self
    cases hpositive

end Boundaries

end EasyConnect
