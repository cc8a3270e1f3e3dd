import EasyConnect.Json.Reader
import EasyConnect.Proofs.Json.Grammar
import Mathlib.Data.List.DropRight

namespace EasyConnect.Json

/-! The reader reads every text of the grammar as the value that it spells, so no text spells two
values. -/

theorem isJsonBlank_iff {c : Char} :
    isJsonBlank c = true ↔ c = ' ' ∨ c = '\n' ∨ c = '\r' ∨ c = '\t' := by
  simp only [isJsonBlank, Bool.or_eq_true, beq_iff_eq, or_assoc]

theorem skipBlanks_append {blanks : List Char} (h : IsBlanks blanks) (rest : List Char) :
    skipBlanks (blanks ++ rest) = skipBlanks rest :=
  List.dropWhile_append_of_pos fun c hc => isJsonBlank_iff.mpr (h c hc)

theorem skipBlanks_cons {c : Char} (h : isJsonBlank c = false) (rest : List Char) :
    skipBlanks (c :: rest) = c :: rest :=
  List.dropWhile_cons_of_neg (by rw [h]; exact Bool.false_ne_true)

theorem skipBlanks_append_cons {blanks : List Char} (h : IsBlanks blanks) {c : Char}
    (hc : isJsonBlank c = false) (rest : List Char) :
    skipBlanks (blanks ++ c :: rest) = c :: rest := by
  rw [skipBlanks_append h, skipBlanks_cons hc]

theorem skipBlanks_skipBlanks (source : List Char) :
    skipBlanks (skipBlanks source) = skipBlanks source :=
  List.dropWhile_idempotent isJsonBlank source

theorem value?_skipBlanks (fuel : Nat) (source : List Char) :
    value? fuel (skipBlanks source) = value? fuel source := by
  cases fuel with
  | zero => rfl
  | succ fuel => rw [value?, value?, skipBlanks_skipBlanks]

theorem items?_skipBlanks (fuel : Nat) (source : List Char) :
    items? fuel (skipBlanks source) = items? fuel source := by
  cases fuel with
  | zero => rfl
  | succ fuel => rw [items?, items?, value?_skipBlanks]

theorem members?_skipBlanks (fuel : Nat) (source : List Char) :
    members? fuel (skipBlanks source) = members? fuel source := by
  cases fuel with
  | zero => rfl
  | succ fuel => rw [members?, members?, name?, name?, skipBlanks_skipBlanks]

/-! Texts -/

theorem isDigit_iff {c : Char} : c.isDigit = true ↔ 0x30 ≤ c.toNat ∧ c.toNat ≤ 0x39 := by
  simp only [Char.isDigit, Bool.and_eq_true, decide_eq_true_eq, ge_iff_le,
    UInt32.le_iff_toNat_le]
  rfl

theorem le_iff_toNat {c d : Char} : c ≤ d ↔ c.toNat ≤ d.toNat := by
  rw [Char.le_def, UInt32.le_iff_toNat_le]
  rfl

theorem hexValue?_of_spells {c : Char} {n : Nat} (h : SpellsHexDigit c n) :
    hexValue? c = some n := by
  cases h with
  | decimal digit => rw [hexValue?, if_pos digit]
  | lower letter =>
      have hnot : ¬ c.isDigit = true := by
        rw [isDigit_iff]
        have hlow : 0x61 ≤ c.toNat := le_iff_toNat.mp letter.1
        omega
      rw [hexValue?, if_neg hnot, if_pos letter]
  | upper letter =>
      have hlow : 0x41 ≤ c.toNat := le_iff_toNat.mp letter.1
      have hhigh : c.toNat ≤ 0x46 := le_iff_toNat.mp letter.2
      have hnot : ¬ c.isDigit = true := by
        rw [isDigit_iff]
        omega
      have hlower : ¬ ('a' ≤ c ∧ c ≤ 'f') := by
        intro h
        have : 0x61 ≤ c.toNat := le_iff_toNat.mp h.1
        omega
      rw [hexValue?, if_neg hnot, if_neg hlower, if_pos letter]

theorem codeUnit?_append {text : List Char} {n : Nat} (h : SpellsUnit text n)
    (rest : List Char) : codeUnit? (text ++ rest) = some (n, rest) := by
  cases h with
  | digits first second third fourth =>
      simp only [List.cons_append, List.nil_append, codeUnit?, hexValue?_of_spells first,
        hexValue?_of_spells second, hexValue?_of_spells third, hexValue?_of_spells fourth]
      rfl

theorem letter?_of_mem {letter c : Char} (h : (letter, c) ∈ letters) :
    letter? letter = some c ∧ letter ≠ 'u' := by
  have hall : ∀ entry ∈ letters, letter? entry.1 = some entry.2 ∧ entry.1 ≠ 'u' := by decide
  exact hall _ h

theorem toNat_lt_or_le (c : Char) : c.toNat < 0xD800 ∨ 0xE000 ≤ c.toNat := by
  rcases c.valid with h | h
  · exact .inl h
  · exact .inr (Nat.le_of_lt_succ (Nat.succ_lt_succ h.1))

theorem escapedPoint?_unit {text : List Char} {c : Char} (h : SpellsUnit text c.toNat)
    (rest : List Char) : escapedPoint? (text ++ rest) = some (c, rest) := by
  rw [escapedPoint?, codeUnit?_append h]
  simp only [bind, Option.bind, if_pos (toNat_lt_or_le c), Char.ofNat_toNat]
  rfl

theorem escapedPoint?_pair {first second : List Char} {c : Char} {offset : Nat}
    (hpoint : c.toNat = 0x10000 + offset) (hhigh : SpellsUnit first (0xD800 + offset / 0x400))
    (hlow : SpellsUnit second (0xDC00 + offset % 0x400)) (rest : List Char) :
    escapedPoint? (first ++ '\x5c' :: 'u' :: (second ++ rest)) = some (c, rest) := by
  have hbound : c.toNat < 0x110000 := by
    rcases c.valid with h | h
    · exact Nat.lt_trans h (by decide)
    · exact h.2
  have hsurrogate : ¬(0xD800 + offset / 0x400 < 0xD800 ∨ 0xE000 ≤ 0xD800 + offset / 0x400) := by
    omega
  have hfirst : 0xD800 + offset / 0x400 < 0xDC00 := by omega
  have hsecond : 0xDC00 ≤ 0xDC00 + offset % 0x400 ∧ 0xDC00 + offset % 0x400 < 0xE000 := by omega
  have hsum : 0x10000 + (0xD800 + offset / 0x400 - 0xD800) * 0x400 +
      (0xDC00 + offset % 0x400 - 0xDC00) = c.toNat := by
    omega
  rw [escapedPoint?, codeUnit?_append hhigh]
  simp only [bind, Option.bind, if_neg hsurrogate, if_pos hfirst, codeUnit?_append hlow,
    if_pos hsecond, hsum, Char.ofNat_toNat]
  rfl

theorem character?_plain {c : Char} (printing : ' ' ≤ c) (mark : c ≠ '\x22')
    (backslash : c ≠ '\x5c') (rest : List Char) : character? (c :: rest) = some (some c, rest) := by
  unfold character?
  split
  · rename_i heq
    exact absurd (List.cons.inj heq).1 mark
  · rename_i heq
    exact absurd (List.cons.inj heq).1 backslash
  · rename_i heq
    exact absurd (List.cons.inj heq).1 backslash
  · rename_i heq
    obtain ⟨rfl, rfl⟩ := List.cons.inj heq
    exact if_neg (Char.not_lt.mpr printing)
  · rename_i heq
    cases heq

theorem character?_letter {letter : Char} (h : letter ≠ 'u') (rest : List Char) :
    character? ('\x5c' :: letter :: rest) = (letter? letter).map fun c => (some c, rest) := by
  unfold character?
  split
  · rename_i heq
    cases heq
  · rename_i heq
    cases heq
    exact absurd rfl h
  · rename_i heq
    cases heq
    rfl
  · rename_i hletter heq
    cases heq
    exact absurd rfl (hletter _ _ rfl)
  · rename_i heq
    cases heq

theorem character?_append {text : List Char} {c : Char} (h : SpellsCharacter text c)
    (rest : List Char) : character? (text ++ rest) = some (some c, rest) := by
  cases h with
  | plain printing mark backslash => exact character?_plain printing mark backslash rest
  | letter listed =>
      obtain ⟨hletter, hne⟩ := letter?_of_mem listed
      rw [List.cons_append, List.cons_append, character?_letter hne, hletter]
      rfl
  | unit digits =>
      rw [List.cons_append, List.cons_append, character?, escapedPoint?_unit digits]
      rfl
  | pair point high low =>
      rw [List.cons_append, List.cons_append, List.append_assoc, character?,
        List.cons_append, List.cons_append, escapedPoint?_pair point high low]
      rfl

theorem SpellsCharacter.length_pos {text : List Char} {c : Char} (h : SpellsCharacter text c) :
    0 < text.length := by
  cases h <;> exact Nat.succ_pos _

theorem characters?_append {text cs : List Char} (h : SpellsCharacters text cs) {fuel : Nat}
    (hfuel : text.length ≤ fuel) (rest : List Char) :
    characters? fuel (text ++ rest) = some (cs, rest) := by
  induction h generalizing fuel with
  | close =>
      cases fuel with
      | zero => cases hfuel
      | succ fuel => rfl
  | cons first others ih =>
      rw [List.length_append] at hfuel
      have hpositive := first.length_pos
      cases fuel with
      | zero => omega
      | succ fuel =>
          rw [List.append_assoc, characters?, character?_append first]
          have hlater := ih (by omega : _ ≤ fuel)
          simp only [hlater, Option.map_some]

theorem string?_append {text : List Char} {s : String} (h : SpellsText text s) {fuel : Nat}
    (hfuel : text.length ≤ fuel + 1) (rest : List Char) :
    string? fuel (text ++ rest) = some (s, rest) := by
  cases h with
  | quoted characters =>
      rw [List.cons_append, string?,
        characters?_append characters (Nat.le_of_succ_le_succ hfuel)]
      simp only [Option.map_some, String.ofList_toList]

/-! Numbers -/

def StopsDigits (rest : List Char) : Prop :=
  ∀ c ∈ rest.head?, c.isDigit = false

theorem natural?_append {text : List Char} {n : Nat} (h : SpellsNatural text n)
    {rest : List Char} (hrest : StopsDigits rest) :
    natural? (text ++ rest) = some (n, rest) := by
  have hnone : rest.takeWhile Char.isDigit = [] ∧ rest.dropWhile Char.isDigit = rest := by
    cases rest with
    | nil => exact ⟨rfl, rfl⟩
    | cons c later =>
        have hc : ¬ c.isDigit = true := by
          rw [hrest c rfl]
          exact Bool.false_ne_true
        exact ⟨List.takeWhile_cons_of_neg hc, List.dropWhile_cons_of_neg hc⟩
  have htake : (text ++ rest).takeWhile Char.isDigit = text := by
    rw [List.takeWhile_append_of_pos h.digits, hnone.1, List.append_nil]
  have hdrop : (text ++ rest).dropWhile Char.isDigit = rest := by
    rw [List.dropWhile_append_of_pos h.digits, hnone.2]
  have hproper : (text.isEmpty || decide (1 < text.length) && text.head? == some '0') = false := by
    rw [Bool.or_eq_false_iff, Bool.and_eq_false_iff]
    refine ⟨List.isEmpty_eq_false_iff.mpr h.nonempty, ?_⟩
    by_cases hzero : text.head? = some '0'
    · left
      rw [h.unpadded hzero]
      rfl
    · right
      exact beq_eq_false_iff_ne.mpr hzero
  simp only [natural?, htake, hdrop, hproper, Bool.false_eq_true, if_false, h.value]

theorem SpellsNatural.head {text : List Char} {n : Nat} (h : SpellsNatural text n) :
    ∃ c later, text = c :: later ∧ c.isDigit = true := by
  obtain ⟨c, later, rfl⟩ := List.exists_cons_of_ne_nil h.nonempty
  exact ⟨c, later, rfl, h.digits c List.mem_cons_self⟩

theorem integer?_append {text : List Char} {n : Int} (h : SpellsInteger text n)
    {rest : List Char} (hrest : StopsDigits rest) :
    integer? (text ++ rest) = some (n, rest) := by
  cases h with
  | natural digits =>
      have hread := natural?_append digits hrest
      obtain ⟨c, later, rfl, hc⟩ := digits.head
      have hminus : c ≠ '-' := by
        intro h
        subst h
        cases hc
      unfold integer?
      split
      · rename_i heq
        exact absurd (List.cons.inj heq).1 hminus
      · rw [hread]
        rfl
  | negative digits =>
      rw [List.cons_append, integer?, natural?_append digits hrest]
      rfl

/-! Values -/

theorem SpellsInteger.head {text : List Char} {n : Int} (h : SpellsInteger text n) :
    ∃ c later, text = c :: later ∧ (c = '-' ∨ c.isDigit = true) := by
  cases h with
  | natural digits =>
      obtain ⟨c, later, rfl, hc⟩ := digits.head
      exact ⟨c, later, rfl, .inr hc⟩
  | negative digits => exact ⟨'-', _, rfl, .inl rfl⟩

theorem ne_of_number {c d : Char} (h : c = '-' ∨ c.isDigit = true) (hd : d ≠ '-')
    (hdigit : d.isDigit = false) : c ≠ d := by
  intro heq
  subst heq
  rcases h with h | h
  · exact hd h
  · rw [hdigit] at h
    cases h

theorem isJsonBlank_of_number {c : Char} (h : c = '-' ∨ c.isDigit = true) :
    isJsonBlank c = false := by
  rw [Bool.eq_false_iff, ne_eq, isJsonBlank_iff]
  rintro (hc | hc | hc | hc)
  · exact ne_of_number h (by decide) (by decide) hc
  · exact ne_of_number h (by decide) (by decide) hc
  · exact ne_of_number h (by decide) (by decide) hc
  · exact ne_of_number h (by decide) (by decide) hc

theorem value?_number {c : Char} (h : c = '-' ∨ c.isDigit = true) (fuel : Nat)
    (rest : List Char) :
    value? (fuel + 1) (c :: rest) =
      (integer? (c :: rest)).map fun (n, rest) => (.int n, rest) := by
  rw [value?, skipBlanks_cons (isJsonBlank_of_number h)]
  split
  · rename_i heq
    exact absurd (List.cons.inj heq).1 (ne_of_number h (by decide) (by decide))
  · rename_i heq
    exact absurd (List.cons.inj heq).1 (ne_of_number h (by decide) (by decide))
  · rename_i heq
    exact absurd (List.cons.inj heq).1 (ne_of_number h (by decide) (by decide))
  · rename_i heq
    exact absurd (List.cons.inj heq).1 (ne_of_number h (by decide) (by decide))
  · rename_i heq
    exact absurd (List.cons.inj heq).1 (ne_of_number h (by decide) (by decide))
  · rename_i heq
    exact absurd (List.cons.inj heq).1 (ne_of_number h (by decide) (by decide))
  · rfl

theorem SpellsValue.head {text : List Char} {json : Json} (h : SpellsValue text json) :
    ∃ c later, text = c :: later ∧ isJsonBlank c = false ∧ c ≠ ']' := by
  cases h with
  | int integer =>
      obtain ⟨c, later, rfl, hc⟩ := integer.head
      exact ⟨c, later, rfl, isJsonBlank_of_number hc, ne_of_number hc (by decide) (by decide)⟩
  | text quoted =>
      cases quoted with
      | quoted characters => exact ⟨_, _, rfl, rfl, by decide⟩
  | _ => exact ⟨_, _, rfl, rfl, by decide⟩

theorem SpellsValue.length_pos {text : List Char} {json : Json} (h : SpellsValue text json) :
    0 < text.length := by
  obtain ⟨c, later, rfl, -⟩ := h.head
  exact Nat.succ_pos _

theorem stopsDigits_append {blanks : List Char} (h : IsBlanks blanks) {c : Char}
    (hc : c.isDigit = false) (rest : List Char) : StopsDigits (blanks ++ c :: rest) := by
  intro d hd
  cases blanks with
  | nil =>
      cases hd
      exact hc
  | cons blank later =>
      cases hd
      rcases h d List.mem_cons_self with rfl | rfl | rfl | rfl
      all_goals rfl

theorem value?_blanks {blanks : List Char} (h : IsBlanks blanks) (fuel : Nat)
    (rest : List Char) : value? fuel (blanks ++ rest) = value? fuel rest := by
  rw [← value?_skipBlanks, skipBlanks_append h, value?_skipBlanks]

theorem items?_last {fuel : Nat} {source after rest : List Char} {item : Json}
    (hitem : value? fuel source = some (item, after ++ ']' :: rest)) (hafter : IsBlanks after) :
    items? (fuel + 1) source = some ([item], rest) := by
  rw [items?, hitem]
  simp only [skipBlanks_append_cons hafter (rfl : isJsonBlank ']' = false)]

theorem items?_more {fuel : Nat} {source after rest behind : List Char} {item : Json}
    {later : List Json} (hitem : value? fuel source = some (item, after ++ ',' :: rest))
    (hafter : IsBlanks after) (hlater : items? fuel rest = some (later, behind)) :
    items? (fuel + 1) source = some (item :: later, behind) := by
  rw [items?, hitem]
  simp only [skipBlanks_append_cons hafter (rfl : isJsonBlank ',' = false), hlater,
    Option.map_some]

theorem members?_last {fuel : Nat} {source rest after behind : List Char} {name : String}
    {item : Json} (hname : name? fuel source = some (name, rest))
    (hitem : value? fuel rest = some (item, after ++ '\x7d' :: behind))
    (hafter : IsBlanks after) :
    members? (fuel + 1) source = some ([(name, item)], behind) := by
  rw [members?, hname]
  simp only [hitem, skipBlanks_append_cons hafter (rfl : isJsonBlank '\x7d' = false)]

theorem members?_more {fuel : Nat} {source rest after others behind : List Char}
    {name : String} {item : Json} {later : List (String × Json)}
    (hname : name? fuel source = some (name, rest))
    (hitem : value? fuel rest = some (item, after ++ ',' :: others)) (hafter : IsBlanks after)
    (hlater : members? fuel others = some (later, behind)) :
    members? (fuel + 1) source = some ((name, item) :: later, behind) := by
  rw [members?, hname]
  simp only [hitem, skipBlanks_append_cons hafter (rfl : isJsonBlank ',' = false), hlater,
    Option.map_some]

theorem name?_append {before label middle : List Char} {name : String} {fuel : Nat}
    (hbefore : IsBlanks before) (hlabel : SpellsText label name) (hmiddle : IsBlanks middle)
    (hfuel : label.length ≤ fuel + 1) (rest : List Char) :
    name? fuel (before ++ (label ++ (middle ++ ':' :: rest))) = some (name, rest) := by
  have hread := string?_append hlabel hfuel (middle ++ ':' :: rest)
  cases hlabel with
  | quoted characters =>
      rw [List.cons_append] at hread ⊢
      rw [name?, skipBlanks_append_cons hbefore rfl, hread]
      simp only [bind, Option.bind, skipBlanks_append_cons hmiddle (rfl : isJsonBlank ':' = false)]
      rfl

/-! Values and rows of them: what is left over from a row is what stands behind its bracket. -/

theorem SpellsItems.head {text : List Char} {items : List Json} (h : SpellsItems text items) :
    ∃ before c later, text = before ++ c :: later ∧ IsBlanks before ∧ isJsonBlank c = false ∧
      c ≠ ']' := by
  cases h with
  | last front value back =>
      obtain ⟨c, later, rfl, hblank, hc⟩ := value.head
      exact ⟨_, c, _, rfl, front, hblank, hc⟩
  | more front value back others =>
      obtain ⟨c, later, rfl, hblank, hc⟩ := value.head
      exact ⟨_, c, _, rfl, front, hblank, hc⟩

theorem SpellsMember.head {text : List Char} {member : String × Json}
    (h : SpellsMember text member) : ∃ later, text = '\x22' :: later := by
  cases h with
  | pair quoted left right value =>
      cases quoted with
      | quoted characters => exact ⟨_, rfl⟩

theorem SpellsMembers.head {text : List Char} {members : List (String × Json)}
    (h : SpellsMembers text members) :
    ∃ before later, text = before ++ '\x22' :: later ∧ IsBlanks before := by
  cases h with
  | last front pair back =>
      obtain ⟨later, rfl⟩ := pair.head
      exact ⟨_, _, rfl, front⟩
  | more front pair back others =>
      obtain ⟨later, rfl⟩ := pair.head
      exact ⟨_, _, rfl, front⟩

theorem value?_list {text rest behind : List Char} {items : List Json} {fuel : Nat}
    (h : SpellsItems text items) (hitems : items? fuel (text ++ rest) = some (items, behind)) :
    value? (fuel + 1) ('[' :: (text ++ rest)) = some (.list items, behind) := by
  obtain ⟨before, c, later, rfl, hbefore, hblank, hc⟩ := h.head
  have hskip : skipBlanks (before ++ c :: later ++ rest) = c :: (later ++ rest) := by
    rw [List.append_assoc, List.cons_append, skipBlanks_append_cons hbefore hblank]
  rw [← items?_skipBlanks, hskip] at hitems
  rw [value?, skipBlanks_cons rfl]
  simp only [hskip]
  split
  · rename_i heq
    exact absurd (List.cons.inj heq).1 hc
  · rw [hitems, Option.map_some]

theorem value?_object {text rest behind : List Char} {members : List (String × Json)}
    {fuel : Nat} (h : SpellsMembers text members)
    (hmembers : members? fuel (text ++ rest) = some (members, behind)) :
    value? (fuel + 1) ('\x7b' :: (text ++ rest)) = some (.object members, behind) := by
  obtain ⟨before, later, rfl, hbefore⟩ := h.head
  have hskip : skipBlanks (before ++ '\x22' :: later ++ rest) = '\x22' :: (later ++ rest) := by
    rw [List.append_assoc, List.cons_append, skipBlanks_append_cons hbefore rfl]
  rw [← members?_skipBlanks, hskip] at hmembers
  rw [value?, skipBlanks_cons rfl]
  simp only [hskip]
  split
  · rename_i heq
    cases heq
  · rw [hmembers, Option.map_some]

mutual

theorem value?_append {text : List Char} {json : Json} :
    SpellsValue text json → ∀ {fuel : Nat}, text.length ≤ fuel + 1 → ∀ {rest : List Char},
      StopsDigits rest → value? (fuel + 1) (text ++ rest) = some (json, rest)
  | .null, _, _, _, _ => rfl
  | .isTrue, _, _, _, _ => rfl
  | .isFalse, _, _, _, _ => rfl
  | .int integer, fuel, _, rest, hrest => by
      have hread := integer?_append integer hrest
      obtain ⟨c, later, rfl, hc⟩ := integer.head
      rw [List.cons_append] at hread ⊢
      rw [value?_number hc, hread, Option.map_some]
  | .text quoted, fuel, hfuel, rest, _ => by
      have hread := string?_append quoted hfuel rest
      cases quoted with
      | quoted characters =>
          rw [List.cons_append] at hread ⊢
          rw [value?, skipBlanks_cons rfl]
          simp only [hread, Option.map_some]
  | .emptyList inside, fuel, _, rest, _ => by
      rw [List.cons_append, List.append_assoc, value?, skipBlanks_cons rfl]
      simp only [List.singleton_append,
        skipBlanks_append_cons inside (rfl : isJsonBlank ']' = false)]
  | .list entries, fuel, hfuel, rest, _ =>
      value?_list entries (items?_append entries (Nat.le_of_succ_le_succ hfuel) rest)
  | .emptyObject inside, fuel, _, rest, _ => by
      rw [List.cons_append, List.append_assoc, value?, skipBlanks_cons rfl]
      simp only [List.singleton_append,
        skipBlanks_append_cons inside (rfl : isJsonBlank '\x7d' = false)]
  | .object entries, fuel, hfuel, rest, _ =>
      value?_object entries (members?_append entries (Nat.le_of_succ_le_succ hfuel) rest)

theorem items?_append {text : List Char} {items : List Json} :
    SpellsItems text items → ∀ {fuel : Nat}, text.length ≤ fuel → ∀ (rest : List Char),
      items? fuel (text ++ rest) = some (items, rest)
  | .last front value back, fuel, hfuel, rest => by
      have hpositive := value.length_pos
      simp only [List.length_append, List.length_cons] at hfuel
      obtain ⟨fuel, rfl⟩ := Nat.exists_eq_add_of_le' (show 2 ≤ fuel by omega)
      simp only [List.append_assoc, List.singleton_append]
      refine items?_last ?_ back
      rw [value?_blanks front]
      exact value?_append value (by omega) (stopsDigits_append back rfl rest)
  | .more front value back others, fuel, hfuel, rest => by
      have hpositive := value.length_pos
      simp only [List.length_append, List.length_cons] at hfuel
      obtain ⟨fuel, rfl⟩ := Nat.exists_eq_add_of_le' (show 2 ≤ fuel by omega)
      have hothers := items?_append others (show _ ≤ fuel + 1 by omega) rest
      simp only [List.append_assoc, List.cons_append]
      refine items?_more ?_ back hothers
      rw [value?_blanks front]
      exact value?_append value (by omega) (stopsDigits_append back rfl _)

theorem members?_append {text : List Char} {members : List (String × Json)} :
    SpellsMembers text members → ∀ {fuel : Nat}, text.length ≤ fuel → ∀ (rest : List Char),
      members? fuel (text ++ rest) = some (members, rest)
  | .last front (.pair quoted left right value) back, fuel, hfuel, rest => by
      have hpositive := value.length_pos
      simp only [List.length_append, List.length_cons] at hfuel
      obtain ⟨fuel, rfl⟩ := Nat.exists_eq_add_of_le' (show 2 ≤ fuel by omega)
      simp only [List.append_assoc, List.cons_append, List.nil_append]
      refine members?_last (name?_append front quoted left (by omega) _) ?_ back
      rw [value?_blanks right]
      exact value?_append value (by omega) (stopsDigits_append back rfl rest)
  | .more front (.pair quoted left right value) back others, fuel, hfuel, rest => by
      have hpositive := value.length_pos
      simp only [List.length_append, List.length_cons] at hfuel
      obtain ⟨fuel, rfl⟩ := Nat.exists_eq_add_of_le' (show 2 ≤ fuel by omega)
      have hothers := members?_append others (show _ ≤ fuel + 1 by omega) rest
      simp only [List.append_assoc, List.cons_append]
      refine members?_more (name?_append front quoted left (by omega) _) ?_ back hothers
      rw [value?_blanks right]
      exact value?_append value (by omega) (stopsDigits_append back rfl _)

end

theorem read?_of_spells {source : String} {json : Json} (h : Spells source json) :
    read? source = some json := by
  cases h with
  | document front value back =>
      rename_i before text after
      have hstops : StopsDigits after := by
        intro c hc
        rcases back c (List.mem_of_mem_head? hc) with rfl | rfl | rfl | rfl
        all_goals rfl
      have hread : value? (2 * (before ++ (text ++ after)).length + 2)
          (before ++ (text ++ after)) = some (json, after) := by
        rw [value?_blanks front]
        apply value?_append value _ hstops
        simp only [List.length_append]
        omega
      have hafter : skipBlanks after = [] := by
        have hskip := skipBlanks_append back []
        rwa [List.append_nil] at hskip
      rw [read?, String.toList_ofList, hread]
      simp only [hafter, List.isEmpty_nil, if_true]

theorem Spells.unique {source : String} {json other : Json} (h : Spells source json)
    (h' : Spells source other) : json = other :=
  Option.some.inj ((read?_of_spells h).symm.trans (read?_of_spells h'))

end EasyConnect.Json
