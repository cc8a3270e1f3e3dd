import EasyConnect.Numeral
import Mathlib.Data.List.DropRight
import Mathlib.Data.List.Pairwise
import Mathlib.Data.Nat.Digits.Defs

namespace EasyConnect

/-! Which texts are numerals, and of which integers. -/

namespace Text

/-- What is left of a text without the characters around it that are dropped. -/
structure TrimsTo (drop : Char → Bool) (text core : List Char) : Prop where
  around : ∃ before after, text = before ++ (core ++ after) ∧
    (∀ c ∈ before, drop c = true) ∧ ∀ c ∈ after, drop c = true
  head : ∀ c ∈ core.head?, drop c = false
  last : ∀ c ∈ core.getLast?, drop c = false

theorem trim_eq_rdropWhile (drop : Char → Bool) (text : List Char) :
    trim drop text = (text.dropWhile drop).rdropWhile drop := rfl

theorem head_dropWhile {drop : Char → Bool} {text : List Char} {c : Char}
    (h : (text.dropWhile drop).head? = some c) : drop c = false := by
  have hnot := text.head?_dropWhile_not drop
  rw [h] at hnot
  exact hnot

theorem trimsTo_trim (drop : Char → Bool) (text : List Char) :
    TrimsTo drop text (trim drop text) := by
  rw [trim_eq_rdropWhile]
  constructor
  case around =>
    refine ⟨text.takeWhile drop, (text.dropWhile drop).rtakeWhile drop, ?_, ?_, ?_⟩
    · rw [List.rdropWhile_append_rtakeWhile, List.takeWhile_append_dropWhile]
    · exact fun c hc => List.mem_takeWhile_imp hc
    · exact fun c hc => List.mem_rtakeWhile_imp hc
  case head =>
    intro c hc
    obtain ⟨rest, hrest⟩ := List.rdropWhile_prefix drop (l := text.dropWhile drop)
    refine @head_dropWhile drop text c ?_
    rw [← hrest, List.head?_append, hc]
    rfl
  case last =>
    intro c hc
    obtain ⟨hnonempty, rfl⟩ := List.mem_getLast?_eq_getLast hc
    exact Bool.eq_false_iff.mpr (List.rdropWhile_last_not drop _ hnonempty)

theorem dropWhile_eq_self {drop : Char → Bool} {text : List Char}
    (h : ∀ c ∈ text.head?, drop c = false) : text.dropWhile drop = text := by
  cases text with
  | nil => rfl
  | cons c rest => rw [List.dropWhile_cons, h c rfl, if_neg Bool.false_ne_true]

theorem TrimsTo.trim_eq {drop : Char → Bool} {text core : List Char}
    (h : TrimsTo drop text core) : trim drop text = core := by
  obtain ⟨before, after, rfl, hbefore, hafter⟩ := h.around
  rw [trim, List.dropWhile_append_of_pos hbefore]
  cases hcore : core with
  | nil =>
      rw [List.nil_append, List.dropWhile_eq_nil_iff.mpr hafter]
      rfl
  | cons c rest =>
      rw [← hcore]
      have hhead : ∀ d ∈ (core ++ after).head?, drop d = false := by
        rw [List.head?_append_of_ne_nil _ (by rw [hcore]; exact List.cons_ne_nil _ _)]
        exact h.head
      have hlast : ∀ d ∈ core.reverse.head?, drop d = false := by
        rw [List.head?_reverse]
        exact h.last
      rw [dropWhile_eq_self hhead, List.reverse_append,
        List.dropWhile_append_of_pos fun d hd => hafter d (List.mem_reverse.mp hd),
        dropWhile_eq_self hlast, List.reverse_reverse]

def IsDecimalDigit (c : Char) (digit : Nat) : Prop :=
  digit < 10 ∧ ∃ start ∈ digitZeros, c.toNat = start + digit

theorem digitZeros_apart : ∀ first ∈ digitZeros, ∀ second ∈ digitZeros,
    first = second ∨ first + 10 ≤ second ∨ second + 10 ≤ first := by
  decide +kernel

theorem decimalDigit?_eq_some_iff {c : Char} {digit : Nat} :
    decimalDigit? c = some digit ↔ IsDecimalDigit c digit := by
  constructor
  · intro h
    refine ⟨decimalDigit?_lt h, ?_⟩
    obtain ⟨start, hstart, rfl⟩ := Option.map_eq_some_iff.mp h
    have hrange := List.find?_some hstart
    simp only [Bool.and_eq_true, decide_eq_true_eq] at hrange
    exact ⟨start, List.mem_of_find?_eq_some hstart, by omega⟩
  · rintro ⟨hlt, start, hstart, hc⟩
    unfold decimalDigit?
    cases hfind : digitZeros.find? fun start =>
        decide (start ≤ c.toNat) && decide (c.toNat < start + 10) with
    | none =>
        have hnone := List.find?_eq_none.mp hfind start hstart
        simp only [Bool.and_eq_true, decide_eq_true_eq] at hnone
        omega
    | some found =>
        have hrange := List.find?_some hfind
        simp only [Bool.and_eq_true, decide_eq_true_eq] at hrange
        have hapart := digitZeros_apart start hstart found (List.mem_of_find?_eq_some hfind)
        rw [Option.map_some, Option.some.injEq]
        omega

end Text

namespace Numeral

open EasyConnect.Text

/-- Digits of any script, with single underscores between some of them. -/
inductive SpellsDigits : List Char → List Nat → Prop
  | last {c : Char} {digit : Nat} (first : IsDecimalDigit c digit) :
      SpellsDigits [c] [digit]
  | next {c : Char} {digit : Nat} {text : List Char} {digits : List Nat}
      (first : IsDecimalDigit c digit) (later : SpellsDigits text digits) :
      SpellsDigits (c :: text) (digit :: digits)
  | apart {c : Char} {digit : Nat} {text : List Char} {digits : List Nat}
      (first : IsDecimalDigit c digit) (later : SpellsDigits text digits) :
      SpellsDigits (c :: '_' :: text) (digit :: digits)

inductive SpellsNatural : List Char → Nat → Prop
  | digits {text : List Char} {digits : List Nat}
      (spelled : SpellsDigits text digits) (short : digits.length ≤ 4300) :
      SpellsNatural text (Nat.ofDigits 10 digits.reverse)

/-- An integer literal: digits with at most one sign in front. -/
inductive Spells : List Char → Int → Prop
  | unsigned {text : List Char} {n : Nat} (natural : SpellsNatural text n) : Spells text n
  | plus {text : List Char} {n : Nat} (natural : SpellsNatural text n) :
      Spells ('+' :: text) n
  | minus {text : List Char} {n : Nat} (natural : SpellsNatural text n) :
      Spells ('-' :: text) (-(n : Int))

theorem decimalDigit?_ne {c : Char} {digit : Nat} (h : decimalDigit? c = some digit) :
    c ≠ '_' ∧ c ≠ '+' ∧ c ≠ '-' := by
  have hnone : decimalDigit? '_' = none ∧ decimalDigit? '+' = none ∧
      decimalDigit? '-' = none := by decide +kernel
  refine ⟨?_, ?_, ?_⟩
  · rintro rfl
    rw [hnone.1] at h
    cases h
  · rintro rfl
    rw [hnone.2.1] at h
    cases h
  · rintro rfl
    rw [hnone.2.2] at h
    cases h

theorem digits?_cons {c : Char} {digit : Nat} (h : decimalDigit? c = some digit)
    (afterDigit : Bool) (rest : List Char) :
    digits? decimalDigit? afterDigit (c :: rest) =
      (digits? decimalDigit? true rest).map (digit :: ·) := by
  have hne : (c == '_') = false := beq_eq_false_iff_ne.mpr (decimalDigit?_ne h).1
  rw [digits?, hne, Bool.and_false, if_neg Bool.false_ne_true, h]
  cases digits? decimalDigit? true rest <;> rfl

theorem digits?_of_spells {text : List Char} {digits : List Nat}
    (h : SpellsDigits text digits) (afterDigit : Bool) :
    digits? decimalDigit? afterDigit text = some digits := by
  induction h generalizing afterDigit with
  | last first => rw [digits?_cons (decimalDigit?_eq_some_iff.mpr first)]; rfl
  | next first later ih => rw [digits?_cons (decimalDigit?_eq_some_iff.mpr first), ih]; rfl
  | apart first later ih =>
      rw [digits?_cons (decimalDigit?_eq_some_iff.mpr first)]
      change (digits? decimalDigit? false _).map _ = _
      rw [ih]
      rfl

theorem spells_of_digits? {afterDigit : Bool} {text : List Char} {digits : List Nat}
    (h : digits? decimalDigit? afterDigit text = some digits) :
    SpellsDigits text digits ∨ (afterDigit = true ∧
      ((text = [] ∧ digits = []) ∨
        ∃ rest, text = '_' :: rest ∧ SpellsDigits rest digits)) := by
  fun_induction digits? decimalDigit? afterDigit text generalizing digits with
  | case1 =>
      cases h
      exact .inr ⟨rfl, .inl ⟨rfl, rfl⟩⟩
  | case2 => cases h
  | case3 afterDigit c rest hunderscore ih =>
      simp only [Bool.and_eq_true, beq_iff_eq] at hunderscore
      obtain ⟨hafter, rfl⟩ := hunderscore
      rcases ih h with hrest | ⟨hfalse, -⟩
      · exact .inr ⟨hafter, .inr ⟨rest, rfl, hrest⟩⟩
      · cases hfalse
  | case4 afterDigit c rest hunderscore ih =>
      cases hdigit : decimalDigit? c with
      | none =>
          rw [hdigit] at h
          cases h
      | some digit =>
          cases hlater : digits? decimalDigit? true rest with
          | none =>
              rw [hdigit, hlater] at h
              cases h
          | some later =>
              rw [hdigit, hlater] at h
              cases h
              have hfirst := decimalDigit?_eq_some_iff.mp hdigit
              rcases ih hlater with hrest | ⟨-, ⟨rfl, rfl⟩ | ⟨rest, rfl, hrest⟩⟩
              · exact .inl (.next hfirst hrest)
              · exact .inl (.last hfirst)
              · exact .inl (.apart hfirst hrest)

theorem digits?_eq_some_iff {text : List Char} {digits : List Nat} :
    digits? decimalDigit? false text = some digits ↔ SpellsDigits text digits := by
  constructor
  · intro h
    rcases spells_of_digits? h with hspells | ⟨hfalse, -⟩
    · exact hspells
    · cases hfalse
  · exact fun h => digits?_of_spells h false

theorem value_eq_ofDigits (digits : List Nat) :
    value digits = Nat.ofDigits 10 digits.reverse := by
  induction digits using List.reverseRecOn with
  | nil => rfl
  | append_singleton digits digit ih =>
      rw [List.reverse_append, List.reverse_singleton, List.singleton_append,
        Nat.ofDigits_cons, ← ih, value, List.foldl_append, List.foldl_cons, List.foldl_nil,
        ← value, Nat.add_comm]

theorem unsigned?_eq_some_iff {text : List Char} {n : Nat} :
    unsigned? text = some n ↔ SpellsNatural text n := by
  unfold unsigned?
  cases hdigits : digits? decimalDigit? false text with
  | none =>
      simp only [bind, Option.bind_none, reduceCtorEq, false_iff]
      rintro ⟨hspelled, -⟩
      rw [digits?_eq_some_iff.mpr hspelled] at hdigits
      cases hdigits
  | some digits =>
      have hspelled := digits?_eq_some_iff.mp hdigits
      constructor
      · intro h
        simp only [bind, Option.bind_some] at h
        split at h
        · cases h
          rw [value_eq_ofDigits]
          exact .digits hspelled ‹_›
        · cases h
      · rintro ⟨hother, hshort⟩
        rw [digits?_eq_some_iff.mpr hother] at hdigits
        cases hdigits
        have hlimit : digits.length ≤ maxDigits := hshort
        simp only [bind, Option.bind_some]
        rw [if_pos hlimit, value_eq_ofDigits]
        rfl

theorem signed?_minus (text : List Char) :
    signed? unsigned? ('-' :: text) = (unsigned? text).map fun n : Nat => -(n : Int) := by
  rw [signed?]
  cases unsigned? text <;> rfl

theorem signed?_plus (text : List Char) :
    signed? unsigned? ('+' :: text) = (unsigned? text).map Int.ofNat := by
  rw [signed?]
  cases unsigned? text <;> rfl

theorem signed?_unsigned {text : List Char} (hplus : text.head? ≠ some '+')
    (hminus : text.head? ≠ some '-') :
    signed? unsigned? text = (unsigned? text).map Int.ofNat := by
  unfold signed?
  split
  · exact absurd rfl hminus
  · exact absurd rfl hplus
  · cases unsigned? text <;> rfl

theorem SpellsNatural.head {text : List Char} {n : Nat} (h : SpellsNatural text n) :
    text.head? ≠ some '+' ∧ text.head? ≠ some '-' := by
  have hsign {c : Char} {digit : Nat} (hc : IsDecimalDigit c digit) (rest : List Char) :
      (c :: rest).head? ≠ some '+' ∧ (c :: rest).head? ≠ some '-' := by
    obtain ⟨-, hplus, hminus⟩ := decimalDigit?_ne (decimalDigit?_eq_some_iff.mpr hc)
    exact ⟨fun heq => hplus (Option.some.inj heq), fun heq => hminus (Option.some.inj heq)⟩
  obtain ⟨hspelled, -⟩ := h
  cases hspelled with
  | last first => exact hsign first _
  | next first later => exact hsign first _
  | apart first later => exact hsign first _

theorem signed?_eq_some_iff {text : List Char} {n : Int} :
    signed? unsigned? text = some n ↔ Spells text n := by
  constructor
  · intro h
    by_cases hminus : text.head? = some '-'
    · obtain ⟨rest, rfl⟩ := List.head?_eq_some_iff.mp hminus
      rw [signed?_minus] at h
      obtain ⟨natural, hnatural, rfl⟩ := Option.map_eq_some_iff.mp h
      exact .minus (unsigned?_eq_some_iff.mp hnatural)
    by_cases hplus : text.head? = some '+'
    · obtain ⟨rest, rfl⟩ := List.head?_eq_some_iff.mp hplus
      rw [signed?_plus] at h
      obtain ⟨natural, hnatural, rfl⟩ := Option.map_eq_some_iff.mp h
      exact .plus (unsigned?_eq_some_iff.mp hnatural)
    · rw [signed?_unsigned hplus hminus] at h
      obtain ⟨natural, hnatural, rfl⟩ := Option.map_eq_some_iff.mp h
      exact .unsigned (unsigned?_eq_some_iff.mp hnatural)
  · intro h
    cases h with
    | unsigned natural =>
        rw [signed?_unsigned natural.head.1 natural.head.2, unsigned?_eq_some_iff.mpr natural]
        rfl
    | plus natural => rw [signed?_plus, unsigned?_eq_some_iff.mpr natural]; rfl
    | minus natural => rw [signed?_minus, unsigned?_eq_some_iff.mpr natural]; rfl

/-- A text reads as an integer if a literal of it is left without the blanks around. -/
theorem read?_eq_some_iff {text : List Char} {n : Int} :
    read? text = some n ↔ ∃ core, TrimsTo isBlank text core ∧ Spells core n := by
  rw [read?, signed?_eq_some_iff]
  constructor
  · exact fun h => ⟨_, trimsTo_trim isBlank text, h⟩
  · rintro ⟨core, hcore, hspells⟩
    rwa [hcore.trim_eq]

theorem read?_of_trimmed {text core : List Char} {n : Int}
    (h : TrimsTo isSeparator text core) : read? core = some n ↔ Spells core n := by
  have hblank {c : Char} (hc : isSeparator c = false) : isBlank c = false := by
    rw [Bool.eq_false_iff] at hc ⊢
    exact fun hblank => hc (isSeparator_of_isBlank c hblank)
  have hcore : TrimsTo isBlank core core :=
    ⟨⟨[], [], by simp, by simp, by simp⟩, fun c hc => hblank (h.head c hc),
      fun c hc => hblank (h.last c hc)⟩
  rw [read?, hcore.trim_eq, signed?_eq_some_iff]

end Numeral

end EasyConnect
