import EasyConnect.Proofs.Configuration
import EasyConnect.Proofs.Numeral

namespace EasyConnect

/-! Which texts are read as boundaries, and which refusal each other one meets first. -/

theorem mapM_eq_some_iff {α β : Type} {f : α → Option β} {xs : List α} {ys : List β} :
    xs.mapM f = some ys ↔ List.Forall₂ (fun x y => f x = some y) xs ys := by
  induction xs generalizing ys with
  | nil =>
      rw [List.mapM_nil, List.forall₂_nil_left_iff]
      exact ⟨fun h => (Option.some.inj h).symm, fun h => congrArg some h.symm⟩
  | cons x rest ih =>
      rw [List.mapM_cons]
      constructor
      · intro h
        obtain ⟨y, hy, hlater⟩ := Option.bind_eq_some_iff.mp h
        obtain ⟨later, hrest, heq⟩ := Option.bind_eq_some_iff.mp hlater
        cases heq
        exact .cons hy (ih.mp hrest)
      · intro h
        cases h with
        | cons hy hrest =>
            rw [hy, ih.mpr hrest]
            rfl

theorem mapM_eq_none_iff {α β : Type} {f : α → Option β} {xs : List α} :
    xs.mapM f = none ↔ ∃ x ∈ xs, f x = none := by
  induction xs with
  | nil => simp
  | cons x rest ih =>
      rw [List.mapM_cons, List.exists_mem_cons_iff, ← ih]
      cases f x with
      | none => simp
      | some y => cases rest.mapM f <;> simp

theorem not_mem_of_mem_splitOn {separator : Char} {text part : List Char}
    (h : part ∈ text.splitOn separator) : separator ∉ part := by
  induction text generalizing part with
  | nil =>
      cases List.mem_singleton.mp h
      exact List.not_mem_nil
  | cons c rest ih =>
      rw [List.splitOn, List.splitOnP_cons_eq_if_modifyHead] at h
      split at h
      · rcases List.mem_cons.mp h with rfl | hlater
        · exact List.not_mem_nil
        · exact ih hlater
      · rename_i hne
        obtain ⟨first, later, hparts⟩ :=
          List.exists_cons_of_ne_nil (List.splitOn_ne_nil separator rest)
        rw [List.splitOn] at hparts
        rw [hparts, List.modifyHead_cons] at h
        have hfirst : first ∈ rest.splitOn separator := by
          rw [List.splitOn, hparts]
          exact List.mem_cons_self
        rcases List.mem_cons.mp h with rfl | hlater
        · rw [List.mem_cons, not_or]
          exact ⟨fun heq => hne (beq_iff_eq.mpr heq.symm), ih hfirst⟩
        · apply ih
          rw [List.splitOn, hparts]
          exact List.mem_cons_of_mem _ hlater

namespace Boundaries

/-- The fields of a text stand between its commas. The separators around a field do not belong to
it, and where nothing else is there is no field. -/
inductive HasFields (raw : String) : List (List Char) → Prop
  | between {parts cores : List (List Char)} (nonempty : parts ≠ [])
      (joined : [','].intercalate parts = raw.toList) (whole : ∀ part ∈ parts, ',' ∉ part)
      (trimmed : List.Forall₂ (Text.TrimsTo Text.isSeparator) parts cores) :
      HasFields raw (cores.filter fun core => !core.isEmpty)

theorem hasFields_iff {raw : String} {found : List (List Char)} :
    HasFields raw found ↔ found = fields raw := by
  constructor
  · rintro ⟨hnonempty, hjoined, hwhole, htrimmed⟩
    have hcores := List.forall₂_map_left_iff.mpr
      (htrimmed.imp fun part core => Text.TrimsTo.trim_eq)
    rw [List.forall₂_eq_eq_eq] at hcores
    rw [fields, ← hjoined, List.splitOn_intercalate ',' hwhole hnonempty, hcores]
  · rintro rfl
    refine .between (List.splitOn_ne_nil ',' raw.toList) (List.intercalate_splitOn ',') ?_ ?_
    · exact fun part hpart => not_mem_of_mem_splitOn hpart
    · rw [List.forall₂_map_right_iff, List.forall₂_same]
      exact fun part _ => Text.trimsTo_trim _ part

theorem exists_trimsTo_of_mem_fields {raw : String} {field : List Char}
    (h : field ∈ fields raw) : ∃ part, Text.TrimsTo Text.isSeparator part field := by
  obtain ⟨part, -, rfl⟩ := List.mem_map.mp (List.mem_filter.mp h).1
  exact ⟨part, Text.trimsTo_trim _ part⟩

theorem read?_field {raw : String} {field : List Char} (h : field ∈ fields raw) {n : Int} :
    Numeral.read? field = some n ↔ Numeral.Spells field n := by
  obtain ⟨part, hpart⟩ := exists_trimsTo_of_mem_fields h
  exact Numeral.read?_of_trimmed hpart

theorem mapM_fields_eq_some_iff {raw : String} {numbers : List Int} :
    (fields raw).mapM Numeral.read? = some numbers ↔
      List.Forall₂ Numeral.Spells (fields raw) numbers := by
  rw [mapM_eq_some_iff, List.forall₂_iff_get, List.forall₂_iff_get]
  refine and_congr_right fun _ => forall₃_congr fun i h _ => ?_
  exact read?_field (List.get_mem _ ⟨i, h⟩)

theorem mapM_fields_eq_none_iff {raw : String} :
    (fields raw).mapM Numeral.read? = none ↔
      ∃ field ∈ fields raw, ∀ n, ¬Numeral.Spells field n := by
  rw [mapM_eq_none_iff]
  refine exists_congr fun field => and_congr_right fun hfield => ?_
  rw [Option.eq_none_iff_forall_ne_some]
  exact forall_congr' fun n => not_congr (read?_field hfield)

/-- The first two neighbours that do not ascend. -/
def FallsAt (numbers : List Int) (lower upper : Int) : Prop :=
  ∃ before after, numbers = before ++ lower :: upper :: after ∧
    (before ++ [lower]).Pairwise (· < ·) ∧ upper ≤ lower

theorem not_fallsAt_singleton {n lower upper : Int} : ¬FallsAt [n] lower upper := by
  rintro ⟨before, after, heq, -, -⟩
  cases before with
  | nil => cases heq
  | cons m before =>
      rw [List.cons_append, List.cons.injEq] at heq
      exact List.append_ne_nil_of_right_ne_nil before (List.cons_ne_nil _ _) heq.2.symm

theorem fallsAt_cons {first second lower upper : Int} {rest : List Int} :
    FallsAt (first :: second :: rest) lower upper ↔
      (second ≤ first ∧ lower = first ∧ upper = second) ∨
        (first < second ∧ FallsAt (second :: rest) lower upper) := by
  constructor
  · rintro ⟨before, after, heq, hascending, hle⟩
    cases before with
    | nil =>
        cases heq
        exact .inl ⟨hle, rfl, rfl⟩
    | cons n before =>
        rw [List.cons_append, List.cons.injEq] at heq
        obtain ⟨rfl, heq⟩ := heq
        rw [List.cons_append, List.pairwise_cons] at hascending
        refine .inr ⟨hascending.1 second ?_, before, after, heq, hascending.2, hle⟩
        cases before with
        | nil =>
            cases heq
            exact List.mem_singleton_self _
        | cons m before =>
            cases heq
            exact List.mem_cons_self
  · rintro (⟨hle, rfl, rfl⟩ | ⟨hlt, before, after, heq, hascending, hle⟩)
    · exact ⟨[], rest, rfl, List.pairwise_singleton _ _, hle⟩
    · refine ⟨first :: before, after, by rw [heq]; rfl, ?_, hle⟩
      rw [List.cons_append, List.pairwise_cons]
      refine ⟨?_, hascending⟩
      intro n hn
      cases before with
      | nil =>
          cases heq
          rw [List.mem_singleton.mp hn]
          exact hlt
      | cons m before =>
          cases heq
          rcases List.mem_cons.mp hn with rfl | hlater
          · exact hlt
          · exact Int.lt_trans hlt ((List.pairwise_cons.mp hascending).1 n hlater)

theorem ascend_number_eq_error_iff {lower upper : Number} {rest : List Value}
    {refusal : Refusal} :
    ascend lower (.number upper :: rest) = .error refusal ↔
      (upper.le lower = true ∧ refusal = .notAscending lower upper) ∨
        (upper.le lower = false ∧ ascend upper rest = .error refusal) := by
  rw [ascend]
  by_cases hle : upper.le lower = true
  · rw [dif_pos hle]
    simp [hle, eq_comm]
  · rw [dif_neg hle]
    cases ascend upper rest <;> simp [hle]

theorem ofValues?_number_eq_error_iff {first : Number} {rest : List Value}
    {refusal : Refusal} :
    ofValues? (.number first :: rest) = .error refusal ↔
      (first.le (.int 0) = true ∧ refusal = .notPositive first) ∨
        (first.le (.int 0) = false ∧ ascend first rest = .error refusal) := by
  rw [ofValues?]
  by_cases hle : first.le (.int 0) = true
  · rw [dif_pos hle]
    simp [hle, eq_comm]
  · rw [dif_neg hle]
    cases ascend first rest <;> simp [hle]

theorem ascend_int_eq_error_iff {lower : Int} {numbers : List Int} {refusal : Refusal} :
    ascend (.int lower) (numbers.map Value.int) = .error refusal ↔
      ∃ first second, FallsAt (lower :: numbers) first second ∧
        refusal = .notAscending (.int first) (.int second) := by
  induction numbers generalizing lower with
  | nil =>
      constructor
      · intro h
        cases h
      · rintro ⟨first, second, hfalls, -⟩
        exact absurd hfalls not_fallsAt_singleton
  | cons upper rest ih =>
      rw [List.map_cons, ascend_number_eq_error_iff, ih]
      simp only [Number.le_int_int, decide_eq_true_eq, decide_eq_false_iff_not, Int.not_le,
        fallsAt_cons]
      constructor
      · rintro (⟨hle, rfl⟩ | ⟨hlt, first, second, hfalls, rfl⟩)
        · exact ⟨lower, upper, .inl ⟨hle, rfl, rfl⟩, rfl⟩
        · exact ⟨first, second, .inr ⟨hlt, hfalls⟩, rfl⟩
      · rintro ⟨first, second, ⟨hle, rfl, rfl⟩ | ⟨hlt, hfalls⟩, rfl⟩
        · exact .inl ⟨hle, rfl⟩
        · exact .inr ⟨hlt, first, second, hfalls, rfl⟩

/-- Why integers are refused as boundaries, and in which words. -/
inductive RefusesNumbers : List Int → Refusal → String → Prop
  | empty : RefusesNumbers [] .empty "At least one bucket boundary is required"
  | notPositive {first : Int} {rest : List Int} (low : first ≤ 0) :
      RefusesNumbers (first :: rest) (.notPositive (.int first))
        ("Bucket boundaries must be positive, got " ++ Numeral.decimal first)
  | notAscending {first lower upper : Int} {rest : List Int} (positive : 0 < first)
      (falls : FallsAt (first :: rest) lower upper) :
      RefusesNumbers (first :: rest) (.notAscending (.int lower) (.int upper))
        ("Bucket boundaries must be strictly ascending: " ++ Numeral.decimal lower ++
          " >= " ++ Numeral.decimal upper)

theorem refusesNumbers_iff {numbers : List Int} {refusal : Refusal} {words : String} :
    RefusesNumbers numbers refusal words ↔
      ofValues? (numbers.map Value.int) = .error refusal ∧ refusal.message = words := by
  cases numbers with
  | nil =>
      constructor
      · rintro ⟨⟩
        exact ⟨rfl, rfl⟩
      · rintro ⟨hrefusal, rfl⟩
        cases hrefusal
        exact .empty
  | cons first rest =>
      rw [List.map_cons, ofValues?_number_eq_error_iff, ascend_int_eq_error_iff]
      simp only [Number.le_int_int, decide_eq_true_eq, decide_eq_false_iff_not, Int.not_le]
      constructor
      · rintro (_ | hlow | ⟨hpositive, hfalls⟩)
        · exact ⟨.inl ⟨hlow, rfl⟩, rfl⟩
        · exact ⟨.inr ⟨hpositive, _, _, hfalls, rfl⟩, rfl⟩
      · rintro ⟨⟨hlow, rfl⟩ | ⟨hpositive, lower, upper, hfalls, rfl⟩, rfl⟩
        · exact .notPositive hlow
        · exact .notAscending hpositive hfalls

theorem ofValues?_int_eq_ok_iff {numbers : List Int} {boundaries : Boundaries} :
    ofValues? (numbers.map Value.int) = .ok boundaries ↔
      boundaries.values = numbers.map .int ∧ numbers ≠ [] ∧ (∀ n ∈ numbers, 0 < n) ∧
        numbers.Pairwise (· < ·) := by
  constructor
  · intro h
    have hmap : numbers.map Value.int = (numbers.map Number.int).map .number := by
      rw [List.map_map]
      rfl
    rw [hmap] at h
    obtain ⟨whole, rfl, rfl⟩ := eq_toBoundaries (values_of_numbers h)
    exact ⟨rfl, whole.nonempty, whole.positive, whole.ascending⟩
  · rintro ⟨hvalues, hnonempty, hpositive, hascending⟩
    have h := ofValues?_number boundaries
    rw [hvalues, List.map_map] at h
    exact h

/-- Why a text is refused, and in which words. A field that is no literal counts before anything
that is wrong with the numbers. -/
inductive Refuses (raw : String) (fields : List (List Char)) : ConfigCause → String → Prop
  | unreadable {field : List Char} (listed : field ∈ fields)
      (strange : ∀ n, ¬Numeral.Spells field n) :
      Refuses raw fields (.unreadable raw)
        ("DPP_METRICS_DURATION_BUCKETS" ++ " must be comma-separated integers, got " ++
          Value.quotedText raw)
  | refused {numbers : List Int} {refusal : Refusal} {words : String}
      (spelled : List.Forall₂ Numeral.Spells fields numbers)
      (reason : RefusesNumbers numbers refusal words) :
      Refuses raw fields (.refused refusal) words

theorem read_of_unreadable {raw : String} (h : (fields raw).mapM Numeral.read? = none) :
    read raw = .error ⟨.unreadable raw, some bucketsVariable⟩ := by
  rw [read, h]

theorem read_of_spelled {raw : String} {numbers : List Int}
    (h : List.Forall₂ Numeral.Spells (fields raw) numbers) :
    read raw = configure bucketsVariable (numbers.map Value.int) := by
  rw [read, mapM_fields_eq_some_iff.mpr h]

theorem spelled_cases (raw : String) :
    (fields raw).mapM Numeral.read? = none ∨
      ∃ numbers, List.Forall₂ Numeral.Spells (fields raw) numbers := by
  cases hnumbers : (fields raw).mapM Numeral.read? with
  | none => exact .inl rfl
  | some numbers => exact .inr ⟨numbers, mapM_fields_eq_some_iff.mp hnumbers⟩

theorem read_eq_ok_iff {raw : String} {boundaries : Boundaries} :
    read raw = .ok boundaries ↔
      ∃ numbers : List Int, boundaries.values = numbers.map .int ∧
        List.Forall₂ Numeral.Spells (fields raw) numbers ∧ numbers ≠ [] ∧
        (∀ n ∈ numbers, 0 < n) ∧ numbers.Pairwise (· < ·) := by
  constructor
  · intro h
    rcases spelled_cases raw with hnone | ⟨numbers, hspelled⟩
    · rw [read_of_unreadable hnone] at h
      cases h
    · rw [read_of_spelled hspelled] at h
      obtain ⟨hvalues, hrest⟩ := ofValues?_int_eq_ok_iff.mp (configure_eq_ok h)
      exact ⟨numbers, hvalues, hspelled, hrest⟩
  · rintro ⟨numbers, hvalues, hspelled, hrest⟩
    rw [read_of_spelled hspelled, configure, ofValues?_int_eq_ok_iff.mpr ⟨hvalues, hrest⟩]

theorem read_eq_error_iff {raw : String} {error : ConfigError} :
    read raw = .error error ↔
      error.setting = some bucketsVariable ∧
        Refuses raw (fields raw) error.cause error.message := by
  obtain ⟨cause, setting⟩ := error
  constructor
  · intro h
    rcases spelled_cases raw with hnone | ⟨numbers, hspelled⟩
    · rw [read_of_unreadable hnone] at h
      cases h
      obtain ⟨field, hfield, hstrange⟩ := mapM_fields_eq_none_iff.mp hnone
      exact ⟨rfl, .unreadable hfield hstrange⟩
    · rw [read_of_spelled hspelled] at h
      obtain ⟨refusal, hrefusal, heq⟩ := configure_eq_error h
      cases heq
      exact ⟨rfl, .refused hspelled (refusesNumbers_iff.mpr ⟨hrefusal, rfl⟩)⟩
  · rintro ⟨hsetting, hrefuses⟩
    cases hsetting
    generalize (ConfigError.mk cause (some bucketsVariable)).message = words at hrefuses
    cases hrefuses with
    | unreadable listed strange =>
        exact read_of_unreadable (mapM_fields_eq_none_iff.mpr ⟨_, listed, strange⟩)
    | refused spelled reason =>
        rw [read_of_spelled spelled, configure, (refusesNumbers_iff.mp reason).1]

/-- Whatever the text, it is read as these boundaries if its fields are literals of positive
integers in ascending order, and otherwise refused under the variable's name for the first
reason there is. -/
theorem read_accepts_exactly_ascending_literals (raw : String) :
    ∃ fields, (∀ found, HasFields raw found ↔ found = fields) ∧
      (∀ boundaries, read raw = .ok boundaries ↔
        ∃ numbers : List Int, boundaries.values = numbers.map .int ∧
          List.Forall₂ Numeral.Spells fields numbers ∧ numbers ≠ [] ∧
          (∀ n ∈ numbers, 0 < n) ∧ numbers.Pairwise (· < ·)) ∧
      ∀ error, read raw = .error error ↔
        error.setting = some "DPP_METRICS_DURATION_BUCKETS" ∧
          Refuses raw fields error.cause error.message := by
  refine ⟨fields raw, fun found => hasFields_iff, ?_, ?_⟩
  · exact fun boundaries => read_eq_ok_iff
  · exact fun error => read_eq_error_iff

end Boundaries

end EasyConnect
