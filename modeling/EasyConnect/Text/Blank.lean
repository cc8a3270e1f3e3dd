import EasyConnect.Text.CodePoints

namespace EasyConnect.Text

/-! Blanks are the characters with the White_Space property; separators add the four
information separators. -/

def blanks : CodePoints :=
  [(0x09, 0x0D), (0x20, 0x20), (0x85, 0x85), (0xA0, 0xA0), (0x1680, 0x1680),
    (0x2000, 0x200A), (0x2028, 0x2029), (0x202F, 0x202F), (0x205F, 0x205F),
    (0x3000, 0x3000)]

def isBlank (c : Char) : Bool :=
  blanks.contains c.toNat

def isSeparator (c : Char) : Bool :=
  isBlank c || (decide (0x1C ≤ c.toNat) && decide (c.toNat ≤ 0x1F))

def trim (drop : Char → Bool) (text : List Char) : List Char :=
  ((text.dropWhile drop).reverse.dropWhile drop).reverse

theorem isSeparator_of_isBlank (c : Char) (h : isBlank c = true) :
    isSeparator c = true := by
  simp [isSeparator, h]

end EasyConnect.Text
