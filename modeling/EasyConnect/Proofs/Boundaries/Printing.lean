import EasyConnect.Proofs.Boundaries.Reading
import EasyConnect.Proofs.Numeral.Decorated

namespace EasyConnect

/-! Boundaries that are printed and read again, however the printed row is decorated. -/

namespace Boundaries

open EasyConnect.Text

def printed (boundaries : Boundaries) : String :=
  ",".intercalate (boundaries.values.map Number.text)

inductive DecoratesField (n : Int) : List Char → Prop
  | surrounded {before text after : List Char} (left : ∀ c ∈ before, isSeparator c = true)
      (decorated : Numeral.Decorates n text) (right : ∀ c ∈ after, isSeparator c = true) :
      DecoratesField n (before ++ (text ++ after))

/-- The numbers in order, one in a field. Any other field is blank. -/
inductive DecoratesFields : List Int → List (List Char) → Prop
  | nil : DecoratesFields [] []
  | blank {numbers : List Int} {field : List Char} {fields : List (List Char)}
      (empty : ∀ c ∈ field, isSeparator c = true) (later : DecoratesFields numbers fields) :
      DecoratesFields numbers (field :: fields)
  | number {n : Int} {numbers : List Int} {field : List Char} {fields : List (List Char)}
      (decorated : DecoratesField n field) (later : DecoratesFields numbers fields) :
      DecoratesFields (n :: numbers) (field :: fields)

inductive Decorates (numbers : List Int) (raw : String) : Prop
  | joined {fields : List (List Char)} (decorated : DecoratesFields numbers fields)
      (joined : raw.toList = [','].intercalate fields) : Decorates numbers raw

theorem comma_not_mem_of_isSeparator {text : List Char}
    (h : ∀ c ∈ text, isSeparator c = true) : ',' ∉ text := by
  intro hcomma
  cases h ',' hcomma

theorem DecoratesField.comma_not_mem {n : Int} {field : List Char} (h : DecoratesField n field)
    (hn : 0 ≤ n) : ',' ∉ field := by
  obtain ⟨hleft, hdecorated, hright⟩ := h
  simp only [List.mem_append, not_or]
  exact ⟨comma_not_mem_of_isSeparator hleft, hdecorated.comma_not_mem hn,
    comma_not_mem_of_isSeparator hright⟩

theorem DecoratesField.exists_core {n : Int} {field : List Char} (h : DecoratesField n field)
    (hn : 0 ≤ n) :
    ∃ core, TrimsTo isSeparator field core ∧ core ≠ [] ∧ Numeral.Spells core n := by
  obtain ⟨hleft, hdecorated, hright⟩ := h
  refine ⟨_, ⟨⟨_, _, rfl, hleft, hright⟩, ?_, ?_⟩, hdecorated.ne_nil, hdecorated.spells hn⟩
  · exact fun c hc => hdecorated.not_isSeparator hn (List.mem_of_mem_head? hc)
  · exact fun c hc => hdecorated.not_isSeparator hn (List.mem_of_getLast? hc)

theorem DecoratesFields.comma_not_mem {numbers : List Int} {fields : List (List Char)}
    (h : DecoratesFields numbers fields) (hnumbers : ∀ n ∈ numbers, 0 < n) :
    ∀ field ∈ fields, ',' ∉ field := by
  induction h with
  | nil => exact fun field hfield => absurd hfield List.not_mem_nil
  | blank empty later ih =>
      exact List.forall_mem_cons.mpr ⟨comma_not_mem_of_isSeparator empty, ih hnumbers⟩
  | number decorated later ih =>
      rw [List.forall_mem_cons] at hnumbers
      exact List.forall_mem_cons.mpr
        ⟨decorated.comma_not_mem (Int.le_of_lt hnumbers.1), ih hnumbers.2⟩

theorem DecoratesFields.exists_cores {numbers : List Int} {fields : List (List Char)}
    (h : DecoratesFields numbers fields) (hnumbers : ∀ n ∈ numbers, 0 < n) :
    ∃ cores, List.Forall₂ (TrimsTo isSeparator) fields cores ∧
      List.Forall₂ Numeral.Spells (cores.filter fun core => !core.isEmpty) numbers := by
  induction h with
  | nil => exact ⟨[], .nil, .nil⟩
  | blank empty later ih =>
      obtain ⟨cores, htrimmed, hspelled⟩ := ih hnumbers
      refine ⟨[] :: cores, .cons ?_ htrimmed, hspelled⟩
      exact ⟨⟨_, [], (List.append_nil _).symm, empty, nofun⟩, nofun, nofun⟩
  | number decorated later ih =>
      rw [List.forall_mem_cons] at hnumbers
      obtain ⟨core, hcore, hnonempty, hspells⟩ :=
        decorated.exists_core (Int.le_of_lt hnumbers.1)
      obtain ⟨cores, htrimmed, hspelled⟩ := ih hnumbers.2
      have hkept : ((core :: cores).filter fun core => !core.isEmpty) =
          core :: cores.filter fun core => !core.isEmpty :=
        List.filter_cons_of_pos (by simp [hnonempty])
      refine ⟨core :: cores, .cons hcore htrimmed, ?_⟩
      rw [hkept]
      exact .cons hspells hspelled

theorem DecoratesFields.ne_nil {numbers : List Int} {fields : List (List Char)}
    (h : DecoratesFields numbers fields) (hnumbers : numbers ≠ []) : fields ≠ [] := by
  cases h with
  | nil => exact absurd rfl hnumbers
  | blank empty later => exact List.cons_ne_nil _ _
  | number decorated later => exact List.cons_ne_nil _ _

theorem decoratesFields_decimal {numbers : List Int} (hnumbers : ∀ n ∈ numbers, 0 < n)
    (hshort : ∀ n ∈ numbers, (Numeral.decimal n).length ≤ 4300) :
    DecoratesFields numbers (numbers.map fun n => (Numeral.decimal n).toList) := by
  induction numbers with
  | nil => exact .nil
  | cons n rest ih =>
      rw [List.forall_mem_cons] at hnumbers hshort
      have hfirst := Numeral.decorates_decimal (Int.le_of_lt hnumbers.1) hshort.1
      have hblank : ∀ c ∈ ([] : List Char), isSeparator c = true := nofun
      have hfield := DecoratesField.surrounded hblank hfirst hblank
      rw [List.nil_append, List.append_nil] at hfield
      exact .number hfield (ih hnumbers.2 hshort.2)

theorem length_decimal_of_spells {fields : List (List Char)} {numbers : List Int}
    (h : List.Forall₂ Numeral.Spells fields numbers) (hnumbers : ∀ n ∈ numbers, 0 < n) :
    ∀ n ∈ numbers, (Numeral.decimal n).length ≤ 4300 := by
  induction h with
  | nil => exact fun n hn => absurd hn List.not_mem_nil
  | cons hfirst hrest ih =>
      rw [List.forall_mem_cons] at hnumbers
      exact List.forall_mem_cons.mpr ⟨hfirst.length_decimal hnumbers.1, ih hnumbers.2⟩

end Boundaries

namespace WholeBoundaries

variable (whole : WholeBoundaries)

theorem read_of_decorates {raw : String} (h : Boundaries.Decorates whole.values raw) :
    Boundaries.read raw = .ok whole.toBoundaries := by
  obtain ⟨hdecorated, hjoined⟩ := h
  obtain ⟨cores, htrimmed, hspelled⟩ := hdecorated.exists_cores whole.positive
  have hfields := Boundaries.hasFields_iff.mp (.between (hdecorated.ne_nil whole.nonempty)
    hjoined.symm (hdecorated.comma_not_mem whole.positive) htrimmed)
  rw [hfields] at hspelled
  exact Boundaries.read_eq_ok_iff.mpr
    ⟨whole.values, rfl, hspelled, whole.nonempty, whole.positive, whole.ascending⟩

theorem decorates_printed (h : ∀ n ∈ whole.values, (Numeral.decimal n).length ≤ 4300) :
    Boundaries.Decorates whole.values whole.toBoundaries.printed := by
  refine .joined (Boundaries.decoratesFields_decimal whole.positive h) ?_
  rw [Boundaries.printed, String.toList_intercalate, toBoundaries, List.map_map, List.map_map]
  rfl

end WholeBoundaries

namespace Boundaries

/-- Printed boundaries are read as they were, whatever decorates them, and so is what any text is
read as when it is printed. -/
theorem read_inverts_printing :
    (∀ whole : WholeBoundaries, (∀ n ∈ whole.values, (Numeral.decimal n).length ≤ 4300) →
        read whole.toBoundaries.printed = .ok whole.toBoundaries ∧
          ∀ raw, Decorates whole.values raw → read raw = .ok whole.toBoundaries) ∧
      ∀ raw boundaries, read raw = .ok boundaries → read boundaries.printed = .ok boundaries := by
  constructor
  · intro whole hshort
    exact ⟨whole.read_of_decorates (whole.decorates_printed hshort),
      fun raw hraw => whole.read_of_decorates hraw⟩
  · intro raw boundaries hread
    obtain ⟨numbers, hvalues, hspelled, -, hpositive, -⟩ := read_eq_ok_iff.mp hread
    obtain ⟨whole, rfl, rfl⟩ := eq_toBoundaries hvalues
    exact whole.read_of_decorates
      (whole.decorates_printed (length_decimal_of_spells hspelled hpositive))

open Text in
theorem read_decorated_row :
    ∃ whole : WholeBoundaries, whole.values = [1, 10] ∧
      (∀ n ∈ whole.values, (Numeral.decimal n).length ≤ 4300) ∧
      Decorates whole.values " +0_1,,1_0" ∧ read " +0_1,,1_0" = .ok whole.toBoundaries := by
  have hnone : ∀ c ∈ ([] : List Char), isSeparator c = true := nofun
  have hspace : ∀ c ∈ [' '], isSeparator c = true := List.forall_mem_singleton.mpr (by decide)
  have hone : Numeral.Underscored (List.replicate 1 '0' ++ (Numeral.decimal 1).toList)
      ['0', '_', '1'] := .apart '0' (.last '1')
  have hten : Numeral.Underscored (List.replicate 0 '0' ++ (Numeral.decimal 10).toList)
      ['1', '_', '0'] := .apart '1' (.last '0')
  have hfirst := DecoratesField.surrounded hspace (.plus (.padded hone (by decide))) hnone
  have hsecond := DecoratesField.surrounded hnone (.unsigned (.padded hten (by decide))) hnone
  have hdecorated : Decorates [1, 10] " +0_1,,1_0" :=
    .joined (.number hfirst (.blank hnone (.number hsecond .nil))) rfl
  have hshort : ∀ n ∈ [1, 10], (Numeral.decimal n).length ≤ 4300 := by decide
  exact ⟨⟨[1, 10], by decide, by decide, by decide⟩, rfl, hshort, hdecorated,
    (read_inverts_printing.1 _ hshort).2 _ hdecorated⟩

end Boundaries

end EasyConnect
