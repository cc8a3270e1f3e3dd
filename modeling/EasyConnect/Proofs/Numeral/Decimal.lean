import EasyConnect.Proofs.Json.Writer
import EasyConnect.Proofs.Text.Pieces

namespace EasyConnect.Numeral

open EasyConnect.Text

/-! Integers as they are written: in digits and at most a sign, and each in its own way. -/

theorem decimal_injective : Function.Injective decimal := by
  intro m n h
  have hstops : Json.StopsDigits [] := by
    intro c hc
    cases hc
  have hm := Json.integer?_append (Json.spellsInteger_decimal m) hstops
  have hn := Json.integer?_append (Json.spellsInteger_decimal n) hstops
  rw [h, hn] at hm
  exact (Prod.mk.inj (Option.some.inj hm)).1.symm

theorem mem_of_spellsInteger {text : List Char} {n : Int} (h : Json.SpellsInteger text n)
    {c : Char} (hc : c ∈ text) : c.isDigit = true ∨ c = '-' := by
  cases h with
  | natural digits => exact .inl (digits.digits c hc)
  | negative digits =>
      rcases List.mem_cons.mp hc with hminus | hdigit
      · exact .inr hminus
      · exact .inl (digits.digits c hdigit)

theorem not_mem_decimal {c : Char} (hdigit : c.isDigit = false) (hminus : c ≠ '-') (n : Int) :
    c ∉ (decimal n).toList := by
  intro h
  rcases mem_of_spellsInteger (Json.spellsInteger_decimal n) h with hc | hc
  · rw [hdigit] at hc
    cases hc
  · exact hminus hc

theorem isUnmarked_decimal (n : Int) : IsUnmarked (decimal n) := by
  intro c hc
  rw [Bool.eq_false_iff]
  intro hmark
  have hnot : c.isDigit = false ∧ c ≠ '-' := by
    simp only [isMarkup, Bool.or_eq_true, beq_iff_eq] at hmark
    rcases hmark with ((rfl | rfl) | rfl) | rfl <;> decide
  exact not_mem_decimal hnot.1 hnot.2 n hc

end EasyConnect.Numeral
