import EasyConnect.Proofs.Numeral
import EasyConnect.Proofs.Numeral.Decimal
import Mathlib.Data.Nat.Digits.Lemmas

namespace EasyConnect

/-! Integers that are typed in with more than their digits. A plus sign, zeros in front and
underscores in between leave the integer as it is. -/

namespace Text

theorem isDecimalDigit_of_isDigit {c : Char} (h : c.isDigit = true) :
    IsDecimalDigit c (c.toNat - 0x30) := by
  obtain ⟨hlow, hhigh⟩ := Json.isDigit_iff.mp h
  exact ⟨by omega, 0x30, List.mem_cons_self, by omega⟩

theorem isSeparator_of_isDigit {c : Char} (h : c.isDigit = true) : isSeparator c = false := by
  obtain ⟨hlow, hhigh⟩ := Json.isDigit_iff.mp h
  have hblank : isBlank c = false := by
    have hspace : ¬c.toNat < 0x20 ∧ ¬c.toNat ≤ 0x20 ∧ c.toNat < 0x85 := by omega
    have hcontrol : ¬c.toNat < 0x09 ∧ ¬c.toNat ≤ 0x0D := by omega
    simp [isBlank, blanks, CodePoints.contains, hspace, hcontrol]
  rw [isSeparator, hblank, Bool.false_or, Bool.and_eq_false_iff]
  exact .inr (decide_eq_false (by omega))

end Text

namespace Numeral

open EasyConnect.Text

inductive Underscored : List Char → List Char → Prop
  | last (c : Char) : Underscored [c] [c]
  | next (c : Char) {digits text : List Char} (later : Underscored digits text) :
      Underscored (c :: digits) (c :: text)
  | apart (c : Char) {digits text : List Char} (later : Underscored digits text) :
      Underscored (c :: digits) (c :: '_' :: text)

/-- The digits of an integer behind zeros, no more of them than a numeral may have. -/
inductive DecoratesDigits (n : Int) : List Char → Prop
  | padded {zeros : Nat} {text : List Char}
      (spaced : Underscored (List.replicate zeros '0' ++ (decimal n).toList) text)
      (short : zeros + (decimal n).length ≤ 4300) : DecoratesDigits n text

inductive Decorates (n : Int) : List Char → Prop
  | unsigned {text : List Char} (digits : DecoratesDigits n text) : Decorates n text
  | plus {text : List Char} (digits : DecoratesDigits n text) : Decorates n ('+' :: text)

theorem underscored_self {digits : List Char} (h : digits ≠ []) : Underscored digits digits := by
  induction digits with
  | nil => exact absurd rfl h
  | cons c rest ih =>
      cases rest with
      | nil => exact .last c
      | cons d rest => exact .next c (ih (List.cons_ne_nil _ _))

theorem Underscored.ne_nil {digits text : List Char} (h : Underscored digits text) :
    text ≠ [] := by
  cases h <;> exact List.cons_ne_nil _ _

theorem Underscored.mem {digits text : List Char} (h : Underscored digits text) {c : Char}
    (hc : c ∈ text) : c ∈ digits ∨ c = '_' := by
  induction h with
  | last d => exact .inl hc
  | next d later ih =>
      rcases List.mem_cons.mp hc with rfl | hlater
      · exact .inl List.mem_cons_self
      · exact (ih hlater).imp_left (List.mem_cons_of_mem d)
  | apart d later ih =>
      rcases List.mem_cons.mp hc with rfl | hrest
      · exact .inl List.mem_cons_self
      rcases List.mem_cons.mp hrest with rfl | hlater
      · exact .inr rfl
      · exact (ih hlater).imp_left (List.mem_cons_of_mem d)

theorem Underscored.spellsDigits {digits text : List Char} (h : Underscored digits text)
    (hdigits : ∀ c ∈ digits, c.isDigit = true) :
    SpellsDigits text (digits.map fun c => c.toNat - 0x30) := by
  induction h with
  | last c => exact .last (isDecimalDigit_of_isDigit (hdigits c List.mem_cons_self))
  | next c later ih =>
      rw [List.forall_mem_cons] at hdigits
      exact .next (isDecimalDigit_of_isDigit hdigits.1) (ih hdigits.2)
  | apart c later ih =>
      rw [List.forall_mem_cons] at hdigits
      exact .apart (isDecimalDigit_of_isDigit hdigits.1) (ih hdigits.2)

theorem spellsNatural_decimal {n : Int} (h : 0 ≤ n) :
    Json.SpellsNatural (decimal n).toList n.natAbs := by
  rw [decimal, if_neg (Int.not_lt.mpr h)]
  exact Json.spellsNatural_repr n.natAbs

section

variable {n : Int} (hn : 0 ≤ n) (zeros : Nat)

include hn

theorem isDigit_of_mem_padded :
    ∀ c ∈ List.replicate zeros '0' ++ (decimal n).toList, c.isDigit = true := by
  intro c hc
  rcases List.mem_append.mp hc with hzero | hdigit
  · rw [List.eq_of_mem_replicate hzero]
    rfl
  · exact (spellsNatural_decimal hn).digits c hdigit

theorem value_padded :
    value ((List.replicate zeros '0' ++ (decimal n).toList).map fun c => c.toNat - 0x30) =
      n.natAbs := by
  have hvalue := (spellsNatural_decimal hn).value
  rw [Json.value_eq_ofDigitChars] at hvalue ⊢
  rw [Nat.ofDigitChars_append, Nat.ofDigitChars_replicate_zero, Nat.mul_zero, hvalue]

theorem DecoratesDigits.spellsNatural {text : List Char} (h : DecoratesDigits n text) :
    SpellsNatural text n.natAbs := by
  obtain ⟨hspaced, hshort⟩ := h
  rename_i zeros
  have hspells := hspaced.spellsDigits (isDigit_of_mem_padded hn zeros)
  have hnatural := SpellsNatural.digits hspells (by simpa [String.length_toList] using hshort)
  rwa [← value_eq_ofDigits, value_padded hn] at hnatural

theorem Decorates.spells {text : List Char} (h : Decorates n text) : Spells text n := by
  have hcast : ((n.natAbs : Nat) : Int) = n := Int.natAbs_of_nonneg hn
  rw [← hcast]
  cases h with
  | unsigned digits => exact .unsigned (digits.spellsNatural hn)
  | plus digits => exact .plus (digits.spellsNatural hn)

theorem Decorates.mem {text : List Char} (h : Decorates n text) {c : Char} (hc : c ∈ text) :
    c.isDigit = true ∨ c = '_' ∨ c = '+' := by
  have hdigits {text : List Char} (h : DecoratesDigits n text) (hc : c ∈ text) :
      c.isDigit = true ∨ c = '_' := by
    obtain ⟨hspaced, -⟩ := h
    exact (hspaced.mem hc).imp_left (isDigit_of_mem_padded hn _ c)
  cases h with
  | unsigned digits => exact (hdigits digits hc).imp_right .inl
  | plus digits =>
      rcases List.mem_cons.mp hc with rfl | hlater
      · exact .inr (.inr rfl)
      · exact (hdigits digits hlater).imp_right .inl

theorem Decorates.not_isSeparator {text : List Char} (h : Decorates n text) {c : Char}
    (hc : c ∈ text) : isSeparator c = false := by
  rcases h.mem hn hc with hdigit | rfl | rfl
  · exact isSeparator_of_isDigit hdigit
  · decide
  · decide

theorem Decorates.comma_not_mem {text : List Char} (h : Decorates n text) : ',' ∉ text := by
  intro hc
  rcases h.mem hn hc with hdigit | hunderscore | hplus
  · cases hdigit
  · cases hunderscore
  · cases hplus

theorem decorates_decimal (h : (decimal n).length ≤ 4300) : Decorates n (decimal n).toList := by
  have hspaced : Underscored (List.replicate 0 '0' ++ (decimal n).toList) (decimal n).toList :=
    underscored_self (spellsNatural_decimal hn).nonempty
  exact .unsigned (.padded hspaced (by omega))

end

theorem Decorates.ne_nil {n : Int} {text : List Char} (h : Decorates n text) : text ≠ [] := by
  cases h with
  | unsigned digits =>
      obtain ⟨hspaced, -⟩ := digits
      exact hspaced.ne_nil
  | plus digits => exact List.cons_ne_nil _ _

theorem SpellsDigits.lt {text : List Char} {digits : List Nat} (h : SpellsDigits text digits) :
    ∀ digit ∈ digits, digit < 10 := by
  induction h with
  | last first => exact List.forall_mem_singleton.mpr first.1
  | next first later ih => exact List.forall_mem_cons.mpr ⟨first.1, ih⟩
  | apart first later ih => exact List.forall_mem_cons.mpr ⟨first.1, ih⟩

theorem SpellsNatural.length_repr {text : List Char} {n : Nat} (h : SpellsNatural text n) :
    n.repr.length ≤ 4300 := by
  obtain ⟨hspelled, hshort⟩ := h
  rename_i digits
  have hbound : Nat.ofDigits 10 digits.reverse < 10 ^ digits.reverse.length :=
    Nat.ofDigits_lt_base_pow_length (by decide) fun digit hdigit =>
      hspelled.lt digit (List.mem_reverse.mp hdigit)
  have hlength : 0 < digits.length := by
    cases hspelled <;> exact Nat.zero_lt_succ _
  rw [List.length_reverse] at hbound
  exact (Nat.repr_length _ _ hlength hbound).trans hshort

theorem Spells.length_decimal {text : List Char} {n : Int} (h : Spells text n) (hn : 0 < n) :
    (decimal n).length ≤ 4300 := by
  rw [decimal, if_neg (by omega)]
  cases h with
  | unsigned natural => exact natural.length_repr
  | plus natural => exact natural.length_repr
  | minus natural => omega

end Numeral

end EasyConnect
