import EasyConnect.Json
import EasyConnect.Numeral

namespace EasyConnect.Json

/-! The grammar of JSON texts, as far as their numbers are integers: which texts spell which
value. -/

def IsBlanks (text : List Char) : Prop :=
  ∀ c ∈ text, c = ' ' ∨ c = '\n' ∨ c = '\r' ∨ c = '\t'

structure SpellsNatural (text : List Char) (n : Nat) : Prop where
  nonempty : text ≠ []
  digits : ∀ c ∈ text, c.isDigit = true
  unpadded : text.head? = some '0' → text.length = 1
  value : Numeral.value (text.map fun c => c.toNat - 0x30) = n

inductive SpellsInteger : List Char → Int → Prop
  | natural {text : List Char} {n : Nat} (digits : SpellsNatural text n) :
      SpellsInteger text n
  | negative {text : List Char} {n : Nat} (digits : SpellsNatural text n) :
      SpellsInteger ('-' :: text) (-(n : Int))

inductive SpellsHexDigit : Char → Nat → Prop
  | decimal {c : Char} (digit : c.isDigit = true) : SpellsHexDigit c (c.toNat - 0x30)
  | lower {c : Char} (letter : 'a' ≤ c ∧ c ≤ 'f') : SpellsHexDigit c (c.toNat - 0x57)
  | upper {c : Char} (letter : 'A' ≤ c ∧ c ≤ 'F') : SpellsHexDigit c (c.toNat - 0x37)

inductive SpellsUnit : List Char → Nat → Prop
  | digits {a b c d : Char} {w x y z : Nat}
      (first : SpellsHexDigit a w) (second : SpellsHexDigit b x)
      (third : SpellsHexDigit c y) (fourth : SpellsHexDigit d z) :
      SpellsUnit [a, b, c, d] (((w * 16 + x) * 16 + y) * 16 + z)

def letters : List (Char × Char) :=
  [('\x22', '\x22'), ('\x5c', '\x5c'), ('/', '/'), ('b', '\x08'), ('f', '\x0c'), ('n', '\n'),
    ('r', '\r'), ('t', '\t')]

/-- A character outside the first plane is spelled as two code units. -/
inductive SpellsCharacter : List Char → Char → Prop
  | plain {c : Char} (printing : ' ' ≤ c) (mark : c ≠ '\x22') (backslash : c ≠ '\x5c') :
      SpellsCharacter [c] c
  | letter {letter c : Char} (listed : (letter, c) ∈ letters) :
      SpellsCharacter ['\x5c', letter] c
  | unit {text : List Char} {c : Char} (digits : SpellsUnit text c.toNat) :
      SpellsCharacter ('\x5c' :: 'u' :: text) c
  | pair {first second : List Char} {c : Char} {offset : Nat}
      (point : c.toNat = 0x10000 + offset)
      (high : SpellsUnit first (0xD800 + offset / 0x400))
      (low : SpellsUnit second (0xDC00 + offset % 0x400)) :
      SpellsCharacter ('\x5c' :: 'u' :: (first ++ '\x5c' :: 'u' :: second)) c

inductive SpellsCharacters : List Char → List Char → Prop
  | close : SpellsCharacters ['\x22'] []
  | cons {text rest : List Char} {c : Char} {later : List Char}
      (first : SpellsCharacter text c) (others : SpellsCharacters rest later) :
      SpellsCharacters (text ++ rest) (c :: later)

inductive SpellsText : List Char → String → Prop
  | quoted {text : List Char} {s : String} (characters : SpellsCharacters text s.toList) :
      SpellsText ('\x22' :: text) s

mutual

inductive SpellsValue : List Char → Json → Prop
  | null : SpellsValue ['n', 'u', 'l', 'l'] .null
  | isTrue : SpellsValue ['t', 'r', 'u', 'e'] (.bool true)
  | isFalse : SpellsValue ['f', 'a', 'l', 's', 'e'] (.bool false)
  | int {text : List Char} {n : Int} (integer : SpellsInteger text n) :
      SpellsValue text (.int n)
  | text {text : List Char} {s : String} (quoted : SpellsText text s) :
      SpellsValue text (.text s)
  | emptyList {blanks : List Char} (inside : IsBlanks blanks) :
      SpellsValue ('[' :: (blanks ++ [']'])) (.list [])
  | list {text : List Char} {items : List Json} (entries : SpellsItems text items) :
      SpellsValue ('[' :: text) (.list items)
  | emptyObject {blanks : List Char} (inside : IsBlanks blanks) :
      SpellsValue ('\x7b' :: (blanks ++ ['\x7d'])) (.object [])
  | object {text : List Char} {members : List (String × Json)}
      (entries : SpellsMembers text members) :
      SpellsValue ('\x7b' :: text) (.object members)

inductive SpellsItems : List Char → List Json → Prop
  | last {before text after : List Char} {item : Json}
      (front : IsBlanks before) (value : SpellsValue text item) (back : IsBlanks after) :
      SpellsItems (before ++ (text ++ (after ++ [']']))) [item]
  | more {before text after rest : List Char} {item : Json} {later : List Json}
      (front : IsBlanks before) (value : SpellsValue text item) (back : IsBlanks after)
      (others : SpellsItems rest later) :
      SpellsItems (before ++ (text ++ (after ++ ',' :: rest))) (item :: later)

inductive SpellsMember : List Char → String × Json → Prop
  | pair {label before after text : List Char} {name : String} {item : Json}
      (quoted : SpellsText label name) (left : IsBlanks before) (right : IsBlanks after)
      (value : SpellsValue text item) :
      SpellsMember (label ++ (before ++ ':' :: (after ++ text))) (name, item)

inductive SpellsMembers : List Char → List (String × Json) → Prop
  | last {before text after : List Char} {member : String × Json}
      (front : IsBlanks before) (pair : SpellsMember text member) (back : IsBlanks after) :
      SpellsMembers (before ++ (text ++ (after ++ ['\x7d']))) [member]
  | more {before text after rest : List Char} {member : String × Json}
      {later : List (String × Json)}
      (front : IsBlanks before) (pair : SpellsMember text member) (back : IsBlanks after)
      (others : SpellsMembers rest later) :
      SpellsMembers (before ++ (text ++ (after ++ ',' :: rest))) (member :: later)

end

/-- A whole text: one value, with nothing but blanks around it. -/
inductive Spells : String → Json → Prop
  | document {before text after : List Char} {json : Json}
      (front : IsBlanks before) (value : SpellsValue text json) (back : IsBlanks after) :
      Spells (String.ofList (before ++ (text ++ after))) json

end EasyConnect.Json
