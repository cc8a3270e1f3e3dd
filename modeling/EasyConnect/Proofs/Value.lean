import EasyConnect.Proofs.Numeral
import EasyConnect.Value
import Mathlib.Data.Rat.Floor

namespace EasyConnect

/-! The integer that a value converts to. Numbers lose their fraction, texts and ASCII bytes are
read as literals, and nothing else converts. -/

namespace Binary64

theorem truncated_of_nonneg {q : Rat} (h : 0 ≤ q) : truncated q = ⌊q⌋ := by
  rw [truncated, Int.tdiv_eq_ediv_of_nonneg (Rat.num_nonneg.mpr h), Rat.floor_def']

theorem truncated_neg (q : Rat) : truncated (-q) = -truncated q := by
  rw [truncated, truncated, Rat.num_neg_eq_neg_num, Rat.den_neg_eq_den, Int.neg_tdiv]

theorem truncated_of_nonpos {q : Rat} (h : q ≤ 0) : truncated q = ⌈q⌉ := by
  have hneg : truncated (-q) = ⌊-q⌋ := truncated_of_nonneg (neg_nonneg.mpr h)
  rw [truncated_neg, Int.floor_neg] at hneg
  exact neg_inj.mp hneg

theorem truncated_mono {p q : Rat} (h : p ≤ q) : truncated p ≤ truncated q := by
  rcases le_total 0 p with hp | hp
  · rw [truncated_of_nonneg hp, truncated_of_nonneg (hp.trans h)]
    exact Int.floor_mono h
  · rw [truncated_of_nonpos hp]
    rcases le_total 0 q with hq | hq
    · rw [truncated_of_nonneg hq]
      calc
        ⌈p⌉ ≤ 0 := Int.ceil_le.mpr (by simpa using hp)
        _ ≤ ⌊q⌋ := Int.floor_nonneg.mpr hq
    · rw [truncated_of_nonpos hq]
      exact Int.ceil_mono h

end Binary64

theorem Place.truncated?_ofInt (n : Int) : (Place.ofInt n).truncated? = some n :=
  Number.truncated?_int n

theorem Number.truncated?_float (x : Binary64) :
    (float x).truncated? = x.toRat?.map Binary64.truncated := by
  cases x with
  | nan => rfl
  | infinite negative => cases negative <;> rfl
  | finite negative mantissa exponent => rfl

namespace Value

theorem asciiText?_cons {byte : UInt8} (h : byte < 0x80) (rest : List UInt8) :
    asciiText? (byte :: rest) = (asciiText? rest).map (Char.ofNat byte.toNat :: ·) := by
  unfold asciiText?
  rw [List.mapM_cons, if_pos h]
  exact (Option.map_eq_bind ..).symm

theorem asciiText?_cons_of_not {byte : UInt8} (h : ¬byte < 0x80) (rest : List UInt8) :
    asciiText? (byte :: rest) = none := by
  rw [asciiText?, List.mapM_cons, if_neg h]
  rfl

theorem asciiText?_eq_some_iff {bytes : List UInt8} {text : List Char} :
    asciiText? bytes = some text ↔
      (∀ byte ∈ bytes, byte < 0x80) ∧
        (bytes.map fun byte => Char.ofNat byte.toNat) = text := by
  induction bytes generalizing text with
  | nil => simp [asciiText?]
  | cons byte rest ih =>
      rw [List.forall_mem_cons, List.map_cons]
      by_cases hbyte : byte < 0x80
      · simp only [asciiText?_cons hbyte, Option.map_eq_some_iff, ih, hbyte, true_and]
        constructor
        · rintro ⟨later, ⟨hrest, rfl⟩, rfl⟩
          exact ⟨hrest, rfl⟩
        · rintro ⟨hrest, rfl⟩
          exact ⟨_, ⟨hrest, rfl⟩, rfl⟩
      · simp only [asciiText?_cons_of_not hbyte, hbyte, false_and, reduceCtorEq]

open Text in
/-- The integer that the value converts to, by its kind. -/
inductive ConvertsTo : Value → Int → Prop
  | int (n : Int) : ConvertsTo (.int n) n
  | truth (b : Bool) : ConvertsTo (.number (.bool b)) (if b then 1 else 0)
  | member (m : Member) : ConvertsTo (.number (.member m)) m.code
  | floor {x : Binary64} {q : Rat} (finite : x.toRat? = some q) (h : 0 ≤ q) :
      ConvertsTo (.number (.float x)) ⌊q⌋
  | ceil {x : Binary64} {q : Rat} (finite : x.toRat? = some q) (h : q < 0) :
      ConvertsTo (.number (.float x)) ⌈q⌉
  | text {s : String} {core : List Char} {n : Int}
      (trimmed : TrimsTo isBlank s.toList core) (spelled : Numeral.Spells core n) :
      ConvertsTo (.text s) n
  | bytes {b : List UInt8} {core : List Char} {n : Int} (ascii : ∀ byte ∈ b, byte < 0x80)
      (trimmed : TrimsTo isBlank (b.map fun byte => Char.ofNat byte.toNat) core)
      (spelled : Numeral.Spells core n) : ConvertsTo (.bytes b) n

theorem truncated?_eq_some_iff {number : Number} {n : Int} :
    number.truncated? = some n ↔ ConvertsTo (.number number) n := by
  cases number with
  | int m =>
      rw [Number.truncated?_int, Option.some_inj]
      constructor
      · rintro rfl
        exact .int m
      · rintro ⟨⟩
        rfl
  | bool b =>
      have htruncated : (Number.bool b).truncated? = some b.toInt := Place.truncated?_ofInt _
      rw [htruncated, Option.some_inj]
      constructor
      · rintro rfl
        cases b with
        | false => exact .truth false
        | true => exact .truth true
      · rintro ⟨⟩
        cases b <;> rfl
  | member m =>
      have htruncated : (Number.member m).truncated? = some m.code := Place.truncated?_ofInt _
      rw [htruncated, Option.some_inj]
      constructor
      · rintro rfl
        exact .member m
      · rintro ⟨⟩
        rfl
  | float x =>
      rw [Number.truncated?_float, Option.map_eq_some_iff]
      constructor
      · rintro ⟨q, hfinite, rfl⟩
        rcases lt_or_ge q 0 with hneg | hnonneg
        · rw [Binary64.truncated_of_nonpos hneg.le]
          exact .ceil hfinite hneg
        · rw [Binary64.truncated_of_nonneg hnonneg]
          exact .floor hfinite hnonneg
      · intro h
        cases h with
        | floor hfinite hnonneg => exact ⟨_, hfinite, Binary64.truncated_of_nonneg hnonneg⟩
        | ceil hfinite hneg => exact ⟨_, hfinite, Binary64.truncated_of_nonpos hneg.le⟩

theorem toInt?_eq_some_iff {value : Value} {n : Int} :
    value.toInt? = some n ↔ value.ConvertsTo n := by
  cases value with
  | number number => exact truncated?_eq_some_iff
  | text s =>
      rw [toInt?, Numeral.read?_eq_some_iff]
      constructor
      · rintro ⟨core, htrims, hspells⟩
        exact .text htrims hspells
      · rintro ⟨⟩
        exact ⟨_, ‹_›, ‹_›⟩
  | bytes b =>
      rw [toInt?, Option.bind_eq_some_iff]
      constructor
      · rintro ⟨text, hascii, hread⟩
        obtain ⟨hbytes, rfl⟩ := asciiText?_eq_some_iff.mp hascii
        obtain ⟨core, htrims, hspells⟩ := Numeral.read?_eq_some_iff.mp hread
        exact .bytes hbytes htrims hspells
      · intro h
        cases h with
        | bytes hascii htrims hspells =>
            exact ⟨_, asciiText?_eq_some_iff.mpr ⟨hascii, rfl⟩,
              Numeral.read?_eq_some_iff.mpr ⟨_, htrims, hspells⟩⟩
  | null => exact ⟨nofun, nofun⟩
  | list items => exact ⟨nofun, nofun⟩
  | object members => exact ⟨nofun, nofun⟩

end Value

end EasyConnect
