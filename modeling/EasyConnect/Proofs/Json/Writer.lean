import EasyConnect.Json.Writer
import EasyConnect.Proofs.Json.Reader

namespace EasyConnect.Json

open EasyConnect.Text

/-! Whatever the layout, the writer spells the value it is given, in printable ASCII. -/

theorem spellsHexDigit_digitChar {n : Nat} (h : n < 16) :
    SpellsHexDigit (Nat.digitChar n) n := by
  by_cases hten : n < 10
  · have hdigit : (Nat.digitChar n).isDigit = true := by
      rw [Nat.isDigit_digitChar, decide_eq_true hten]
    have hspells := SpellsHexDigit.decimal hdigit
    rwa [Nat.toNat_digitChar_sub_48_of_lt_ten hten] at hspells
  · obtain rfl | rfl | rfl | rfl | rfl | rfl :
        n = 10 ∨ n = 11 ∨ n = 12 ∨ n = 13 ∨ n = 14 ∨ n = 15 := by
      omega
    all_goals exact SpellsHexDigit.lower (by decide)

theorem spellsUnit_hexDigits {n : Nat} (h : n < 0x10000) : SpellsUnit (hexDigits 4 n) n := by
  have hspells := SpellsUnit.digits
    (spellsHexDigit_digitChar (Nat.mod_lt (n / 16 / 16 / 16) (by decide)))
    (spellsHexDigit_digitChar (Nat.mod_lt (n / 16 / 16) (by decide)))
    (spellsHexDigit_digitChar (Nat.mod_lt (n / 16) (by decide)))
    (spellsHexDigit_digitChar (Nat.mod_lt n (by decide)))
  have hvalue : ((n / 16 / 16 / 16 % 16 * 16 + n / 16 / 16 % 16) * 16 + n / 16 % 16) * 16 +
      n % 16 = n := by
    omega
  rwa [hvalue] at hspells

theorem spellsCharacter_codePointEscape (c : Char) :
    SpellsCharacter (codePointEscape c.toNat) c := by
  unfold codePointEscape
  split
  · rename_i hunit
    exact .unit (spellsUnit_hexDigits hunit)
  · rename_i hpair
    have hbound : c.toNat < 0x110000 := by
      rcases c.valid with h | h
      · exact Nat.lt_trans h (by decide)
      · exact h.2
    have hpoint : c.toNat = 0x10000 + (c.toNat - 0x10000) := by omega
    exact .pair hpoint (spellsUnit_hexDigits (by omega)) (spellsUnit_hexDigits (by omega))

theorem mem_letters_of_letterEscape? {c letter : Char} (h : letterEscape? c = some letter) :
    (letter, c) ∈ letters := by
  unfold letterEscape? at h
  repeat' split at h
  all_goals cases h
  all_goals subst_vars
  all_goals decide

theorem spellsCharacter_escapedChar (c : Char) : SpellsCharacter (escapedChar c) c := by
  unfold escapedChar
  split
  · rename_i letter hletter
    exact .letter (mem_letters_of_letterEscape? hletter)
  · rename_i hnone
    split
    · rename_i hprintable
      refine .plain hprintable.1 ?_ ?_
      · rintro rfl
        cases hnone
      · rintro rfl
        cases hnone
    · exact spellsCharacter_codePointEscape c

theorem spellsCharacters_flatMap (cs : List Char) :
    SpellsCharacters (cs.flatMap escapedChar ++ ['\x22']) cs := by
  induction cs with
  | nil => exact .close
  | cons c later ih =>
      rw [List.flatMap_cons, List.append_assoc]
      exact .cons (spellsCharacter_escapedChar c) ih

theorem spellsText_encodeText (s : String) : SpellsText (encodeText s) s :=
  .quoted (spellsCharacters_flatMap s.toList)

theorem value_eq_ofDigitChars (text : List Char) :
    Numeral.value (text.map fun c => c.toNat - 0x30) = Nat.ofDigitChars 10 text 0 := by
  rw [Numeral.value, List.foldl_map, Nat.ofDigitChars_eq_foldl]
  rfl

theorem head?_toDigits {n : Nat} (h : 0 < n) : (Nat.toDigits 10 n).head? ≠ some '0' := by
  induction n using Nat.strongRecOn with
  | ind n ih =>
      by_cases hten : n < 10
      · rw [Nat.toDigits_of_lt_base hten, List.head?_cons, ne_eq, Option.some.injEq,
          Nat.digitChar_eq_zero]
        exact Nat.ne_of_gt h
      · have hnonempty : Nat.toDigits 10 (n / 10) ≠ [] := Nat.toDigits_ne_nil
        rw [Nat.toDigits_of_base_le (by decide) (Nat.not_lt.mp hten),
          List.head?_append_of_ne_nil _ hnonempty]
        exact ih (n / 10) (by omega) (by omega)

theorem spellsNatural_repr (n : Nat) : SpellsNatural n.repr.toList n where
  nonempty := by
    rw [Nat.repr_eq_ofList_toDigits, String.toList_ofList]
    exact Nat.toDigits_ne_nil
  digits c hc := by
    rw [Nat.repr_eq_ofList_toDigits, String.toList_ofList] at hc
    exact Nat.isDigit_of_mem_toDigits (by decide) (by decide) hc
  unpadded hzero := by
    rw [Nat.repr_eq_ofList_toDigits, String.toList_ofList] at hzero ⊢
    rcases Nat.eq_zero_or_pos n with rfl | hpositive
    · rfl
    · exact absurd hzero (head?_toDigits hpositive)
  value := by
    rw [Nat.repr_eq_ofList_toDigits, String.toList_ofList, value_eq_ofDigitChars,
      Nat.ofDigitChars_ten_toDigits]

theorem spellsInteger_decimal (n : Int) : SpellsInteger (Numeral.decimal n).toList n := by
  have hnatural := spellsNatural_repr n.natAbs
  unfold Numeral.decimal
  split
  · rename_i hneg
    have hspells := SpellsInteger.negative hnatural
    rw [Int.ofNat_natAbs_of_nonpos (Int.le_of_lt hneg), Int.neg_neg] at hspells
    rw [String.toList_append]
    exact hspells
  · rename_i hnonneg
    have hspells := SpellsInteger.natural hnatural
    rwa [Int.natAbs_of_nonneg (Int.not_lt.mp hnonneg)] at hspells

theorem isBlanks_nil : IsBlanks [] :=
  fun _ h => nomatch h

theorem isBlanks_lineBreak (layout : Layout) (level : Nat) :
    IsBlanks (layout.lineBreak level) := by
  cases layout with
  | line => exact isBlanks_nil
  | indented width =>
      intro c hc
      rcases List.mem_cons.mp hc with rfl | hspace
      · exact .inr (.inl rfl)
      · exact .inl (List.eq_of_mem_replicate hspace)

theorem comma_lineBreak (layout : Layout) (level : Nat) :
    ∃ blanks, layout.comma ++ layout.lineBreak level = ',' :: blanks ∧ IsBlanks blanks := by
  cases layout with
  | line =>
      refine ⟨[' '], rfl, ?_⟩
      intro c hc
      exact .inl (List.mem_singleton.mp hc)
  | indented width => exact ⟨_, rfl, isBlanks_lineBreak (.indented width) level⟩

theorem spellsMember_pair (name : String) {text : List Char} {value : Json}
    (h : SpellsValue text value) :
    SpellsMember (encodeText name ++ ':' :: ' ' :: text) (name, value) := by
  have hspace : IsBlanks [' '] := fun c hc => .inl (List.mem_singleton.mp hc)
  exact .pair (spellsText_encodeText name) isBlanks_nil hspace h

mutual

theorem spellsValue_encode (layout : Layout) (level : Nat) :
    (json : Json) → SpellsValue (encode layout level json) json
  | .null => .null
  | .bool true => .isTrue
  | .bool false => .isFalse
  | .int n => .int (spellsInteger_decimal n)
  | .text s => .text (spellsText_encodeText s)
  | .list [] => .emptyList isBlanks_nil
  | .list (item :: rest) =>
      .list (spellsItems_encodeItems layout (level + 1) rest (isBlanks_lineBreak layout _)
        (spellsValue_encode layout (level + 1) item) (isBlanks_lineBreak layout level))
  | .object [] => .emptyObject isBlanks_nil
  | .object ((name, value) :: rest) => by
      have hfirst := spellsMember_pair name (spellsValue_encode layout (level + 1) value)
      have hall := spellsMembers_encodeMembers layout (level + 1) rest
        (isBlanks_lineBreak layout (level + 1)) hfirst (isBlanks_lineBreak layout level)
      rw [encode]
      simpa only [List.append_assoc, List.cons_append] using SpellsValue.object hall

theorem spellsItems_encodeItems (layout : Layout) (level : Nat) :
    (rest : List Json) → {before text after : List Char} → {item : Json} → IsBlanks before →
      SpellsValue text item → IsBlanks after →
        SpellsItems (before ++ (text ++ (encodeItems layout level rest ++ (after ++ [']']))))
          (item :: rest)
  | [], _, _, _, _, hbefore, hitem, hafter => .last hbefore hitem hafter
  | next :: later, _, _, _, _, hbefore, hitem, hafter => by
      obtain ⟨blanks, hcomma, hblanks⟩ := comma_lineBreak layout level
      have hlater := spellsItems_encodeItems layout level later hblanks
        (spellsValue_encode layout level next) hafter
      have hmore := SpellsItems.more hbefore hitem isBlanks_nil hlater
      rw [encodeItems, ← List.append_assoc layout.comma, hcomma]
      simpa only [List.append_assoc, List.cons_append, List.nil_append] using hmore

theorem spellsMembers_encodeMembers (layout : Layout) (level : Nat) :
    (rest : List (String × Json)) → {before text after : List Char} →
      {member : String × Json} → IsBlanks before → SpellsMember text member → IsBlanks after →
        SpellsMembers
          (before ++ (text ++ (encodeMembers layout level rest ++ (after ++ ['\x7d']))))
          (member :: rest)
  | [], _, _, _, _, hbefore, hmember, hafter => .last hbefore hmember hafter
  | (name, value) :: later, _, _, _, _, hbefore, hmember, hafter => by
      obtain ⟨blanks, hcomma, hblanks⟩ := comma_lineBreak layout level
      have hnext := spellsMember_pair name (spellsValue_encode layout level value)
      have hlater := spellsMembers_encodeMembers layout level later hblanks hnext hafter
      have hmore := SpellsMembers.more hbefore hmember isBlanks_nil hlater
      rw [encodeMembers, ← List.append_assoc layout.comma, hcomma]
      simpa only [List.append_assoc, List.cons_append, List.nil_append] using hmore

end

theorem spells_write (layout : Layout) (json : Json) : Spells (json.write layout) json := by
  have hspells := Spells.document isBlanks_nil (spellsValue_encode layout 0 json) isBlanks_nil
  rwa [List.nil_append, List.append_nil] at hspells

def Layout.IsPlain (layout : Layout) (text : List Char) : Prop :=
  ∀ c ∈ text, (' ' ≤ c ∧ c ≤ '~') ∨ (layout ≠ .line ∧ c = '\n')

namespace Layout

variable {layout : Layout}

theorem isPlain_append {first second : List Char} :
    layout.IsPlain (first ++ second) ↔ layout.IsPlain first ∧ layout.IsPlain second :=
  List.forall_mem_append

theorem isPlain_cons {c : Char} {text : List Char} (h : ' ' ≤ c ∧ c ≤ '~') :
    layout.IsPlain (c :: text) ↔ layout.IsPlain text := by
  rw [IsPlain, List.forall_mem_cons]
  exact and_iff_right (.inl h)

theorem isPlain_of_printable {text : List Char} (h : ∀ c ∈ text, ' ' ≤ c ∧ c ≤ '~') :
    layout.IsPlain text :=
  fun c hc => .inl (h c hc)

theorem isPlain_of_all {text : List Char}
    (h : (text.all fun c => decide (' ' ≤ c ∧ c ≤ '~')) = true) : layout.IsPlain text :=
  isPlain_of_printable fun c hc => of_decide_eq_true (List.all_eq_true.mp h c hc)

theorem isPlain_lineBreak (level : Nat) : layout.IsPlain (layout.lineBreak level) := by
  cases layout with
  | line => exact fun _ h => nomatch h
  | indented width =>
      intro c hc
      rcases List.mem_cons.mp hc with rfl | hspace
      · exact .inr ⟨Layout.noConfusion, rfl⟩
      · rw [List.eq_of_mem_replicate hspace]
        exact .inl (by decide)

theorem isPlain_comma : layout.IsPlain layout.comma := by
  cases layout with
  | line => exact isPlain_of_all rfl
  | indented width => exact isPlain_of_all rfl

end Layout

theorem printable_of_isDigit {c : Char} (h : c.isDigit = true) : ' ' ≤ c ∧ c ≤ '~' := by
  have hdigit := isDigit_iff.mp h
  constructor
  · exact le_iff_toNat.mpr (Nat.le_trans (by decide) hdigit.1)
  · exact le_iff_toNat.mpr (Nat.le_trans hdigit.2 (by decide))

theorem printable_hexDigits (width n : Nat) :
    ∀ c ∈ hexDigits width n, ' ' ≤ c ∧ c ≤ '~' := by
  have hdigit : ∀ m < 16, ' ' ≤ Nat.digitChar m ∧ Nat.digitChar m ≤ '~' := by decide
  induction width generalizing n with
  | zero => exact fun _ h => nomatch h
  | succ width ih =>
      intro c hc
      rcases List.mem_append.mp hc with hbefore | hlast
      · exact ih (n / 16) c hbefore
      · rw [List.mem_singleton.mp hlast]
        exact hdigit (n % 16) (Nat.mod_lt n (by decide))

theorem printable_unitEscape (codeUnit : Nat) :
    ∀ c ∈ unitEscape codeUnit, ' ' ≤ c ∧ c ≤ '~' := by
  rw [unitEscape, List.forall_mem_cons, List.forall_mem_cons]
  exact ⟨by decide, by decide, printable_hexDigits 4 codeUnit⟩

theorem printable_escapedChar (c : Char) : ∀ d ∈ escapedChar c, ' ' ≤ d ∧ d ≤ '~' := by
  have hletters : ∀ entry ∈ letters, ' ' ≤ entry.1 ∧ entry.1 ≤ '~' := by decide
  unfold escapedChar
  split
  · rename_i letter hletter
    rw [List.forall_mem_cons, List.forall_mem_singleton]
    exact ⟨by decide, hletters _ (mem_letters_of_letterEscape? hletter)⟩
  · split
    · rename_i hprintable
      rw [List.forall_mem_singleton]
      exact hprintable
    · unfold codePointEscape
      split
      · exact printable_unitEscape _
      · rw [List.forall_mem_append]
        exact ⟨printable_unitEscape _, printable_unitEscape _⟩

theorem printable_encodeText (s : String) : ∀ c ∈ encodeText s, ' ' ≤ c ∧ c ≤ '~' := by
  have hcharacters : ∀ c ∈ s.toList.flatMap escapedChar, ' ' ≤ c ∧ c ≤ '~' := by
    intro c hc
    obtain ⟨d, -, hd⟩ := List.mem_flatMap.mp hc
    exact printable_escapedChar d c hd
  rw [encodeText, List.forall_mem_cons, List.forall_mem_append, List.forall_mem_singleton]
  exact ⟨by decide, hcharacters, by decide⟩

theorem printable_decimal (n : Int) : ∀ c ∈ (Numeral.decimal n).toList, ' ' ≤ c ∧ c ≤ '~' := by
  have hdigits : ∀ c ∈ n.natAbs.repr.toList, ' ' ≤ c ∧ c ≤ '~' := fun c hc =>
    printable_of_isDigit ((spellsNatural_repr n.natAbs).digits c hc)
  unfold Numeral.decimal
  split
  · have hminus : "-".toList = ['-'] := rfl
    rw [String.toList_append, hminus, List.singleton_append, List.forall_mem_cons]
    exact ⟨by decide, hdigits⟩
  · exact hdigits

open Layout

mutual

theorem isPlain_encode (layout : Layout) (level : Nat) :
    (json : Json) → layout.IsPlain (encode layout level json)
  | .null => isPlain_of_all (by rw [encode]; rfl)
  | .bool true => isPlain_of_all (by rw [encode]; rfl)
  | .bool false => isPlain_of_all (by rw [encode]; rfl)
  | .int n => isPlain_of_printable (printable_decimal n)
  | .text s => isPlain_of_printable (printable_encodeText s)
  | .list [] => isPlain_of_all (by rw [encode]; rfl)
  | .list (item :: rest) => by
      have hbracket : layout.IsPlain [']'] := isPlain_of_all rfl
      rw [encode, isPlain_cons (by decide)]
      simp only [isPlain_append]
      exact ⟨isPlain_lineBreak _, isPlain_encode layout _ item, isPlain_encodeItems layout _ rest,
        isPlain_lineBreak _, hbracket⟩
  | .object [] => isPlain_of_all (by rw [encode]; rfl)
  | .object ((name, value) :: rest) => by
      have hbracket : layout.IsPlain ['\x7d'] := isPlain_of_all rfl
      rw [encode, isPlain_cons (by decide)]
      simp only [isPlain_append, isPlain_cons (by decide : ' ' ≤ ':' ∧ ':' ≤ '~'),
        isPlain_cons (by decide : ' ' ≤ ' ' ∧ ' ' ≤ '~')]
      exact ⟨isPlain_lineBreak _, isPlain_of_printable (printable_encodeText name),
        isPlain_encode layout _ value, isPlain_encodeMembers layout _ rest,
        isPlain_lineBreak _, hbracket⟩

theorem isPlain_encodeItems (layout : Layout) (level : Nat) :
    (items : List Json) → layout.IsPlain (encodeItems layout level items)
  | [] => isPlain_of_all (by rw [encodeItems]; rfl)
  | item :: rest => by
      rw [encodeItems]
      simp only [isPlain_append]
      exact ⟨isPlain_comma, isPlain_lineBreak _, isPlain_encode layout level item,
        isPlain_encodeItems layout level rest⟩

theorem isPlain_encodeMembers (layout : Layout) (level : Nat) :
    (members : List (String × Json)) → layout.IsPlain (encodeMembers layout level members)
  | [] => isPlain_of_all (by rw [encodeMembers]; rfl)
  | (name, value) :: rest => by
      rw [encodeMembers]
      simp only [isPlain_append, isPlain_cons (by decide : ' ' ≤ ':' ∧ ':' ≤ '~'),
        isPlain_cons (by decide : ' ' ≤ ' ' ∧ ' ' ≤ '~')]
      exact ⟨isPlain_comma, isPlain_lineBreak _,
        isPlain_of_printable (printable_encodeText name), isPlain_encode layout level value,
        isPlain_encodeMembers layout level rest⟩

end

theorem isPlain_write (layout : Layout) (json : Json) :
    layout.IsPlain (json.write layout).toList := by
  rw [write, String.toList_ofList]
  exact isPlain_encode layout 0 json

end EasyConnect.Json
