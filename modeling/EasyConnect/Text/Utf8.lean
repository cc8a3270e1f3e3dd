namespace EasyConnect.Text

/-! Where bytes stop being UTF-8 text. -/

/-- The place of the first bytes that are no character: those before `stop` could have begun one,
unless `first` already could not. -/
structure Misencoding where
  first : UInt8
  start : Nat
  stop : Nat

def followers? (first : UInt8) : Option (List (UInt8 × UInt8)) :=
  if first < 0x80 then some []
  else if first < 0xC2 then none
  else if first < 0xE0 then some [(0x80, 0xBF)]
  else if first = 0xE0 then some [(0xA0, 0xBF), (0x80, 0xBF)]
  else if first = 0xED then some [(0x80, 0x9F), (0x80, 0xBF)]
  else if first < 0xF0 then some [(0x80, 0xBF), (0x80, 0xBF)]
  else if first = 0xF0 then some [(0x90, 0xBF), (0x80, 0xBF), (0x80, 0xBF)]
  else if first < 0xF4 then some [(0x80, 0xBF), (0x80, 0xBF), (0x80, 0xBF)]
  else if first = 0xF4 then some [(0x80, 0x8F), (0x80, 0xBF), (0x80, 0xBF)]
  else none

namespace Misencoding

def locate (current : Misencoding) : List (UInt8 × UInt8) → List UInt8 → Misencoding
  | _, [] => current
  | [], byte :: rest =>
      let begun : Misencoding := ⟨byte, current.stop, current.stop + 1⟩
      match followers? byte with
      | some owed => begun.locate owed rest
      | none => begun
  | (least, greatest) :: owed, byte :: rest =>
      if least ≤ byte ∧ byte ≤ greatest then
        locate { current with stop := current.stop + 1 } owed rest
      else current

end Misencoding

def decodeUtf8 (bytes : List UInt8) : Except Misencoding String :=
  match String.fromUTF8? ⟨bytes.toArray⟩ with
  | some s => .ok s
  | none => .error (Misencoding.locate ⟨0, 0, 0⟩ [] bytes)

end EasyConnect.Text
