import EasyConnect.Json
import EasyConnect.Numeral
import EasyConnect.Text.Quoted
import EasyConnect.Word

namespace EasyConnect.Json

open EasyConnect.Text

/-! JSON text in ASCII, on one line or with every item on a line of its own. -/

inductive Layout
  | line
  | indented (width : Nat)

inductive IndentFault
  | tooWide
  deriving DecidableEq

def IndentFault.message : IndentFault → String
  | .tooWide => "cannot fit 'int' into an index-sized integer"

/-- Without an indent the text is one line; a negative indent that fits a word counts as zero. -/
def Layout.ofIndent : Option Int → Except IndentFault Layout
  | none => .ok .line
  | some indent => if fitsWord indent then .ok (.indented indent.toNat) else .error .tooWide

def Layout.lineBreak : Layout → Nat → List Char
  | .line, _ => []
  | .indented width, level => '\n' :: List.replicate (width * level) ' '

def Layout.comma : Layout → List Char
  | .line => [',', ' ']
  | .indented _ => [',']

def unitEscape (codeUnit : Nat) : List Char :=
  '\x5c' :: 'u' :: hexDigits 4 codeUnit

def codePointEscape (point : Nat) : List Char :=
  if point < 0x10000 then unitEscape point
  else
    unitEscape (0xD800 + (point - 0x10000) / 0x400) ++
      unitEscape (0xDC00 + (point - 0x10000) % 0x400)

def letterEscape? (c : Char) : Option Char :=
  if c = '\x22' then some '\x22'
  else if c = '\x5c' then some '\x5c'
  else if c = '\n' then some 'n'
  else if c = '\r' then some 'r'
  else if c = '\t' then some 't'
  else if c = '\x08' then some 'b'
  else if c = '\x0c' then some 'f'
  else none

def escapedChar (c : Char) : List Char :=
  match letterEscape? c with
  | some letter => ['\x5c', letter]
  | none => if ' ' ≤ c ∧ c ≤ '~' then [c] else codePointEscape c.toNat

def encodeText (s : String) : List Char :=
  '\x22' :: (s.toList.flatMap escapedChar ++ ['\x22'])

mutual

def encode (layout : Layout) (level : Nat) : Json → List Char
  | .null => ['n', 'u', 'l', 'l']
  | .bool true => ['t', 'r', 'u', 'e']
  | .bool false => ['f', 'a', 'l', 's', 'e']
  | .int n => (Numeral.decimal n).toList
  | .text s => encodeText s
  | .list [] => ['[', ']']
  | .list (item :: rest) =>
      '[' :: (layout.lineBreak (level + 1) ++ (encode layout (level + 1) item ++
        (encodeItems layout (level + 1) rest ++ (layout.lineBreak level ++ [']']))))
  | .object [] => ['\x7b', '\x7d']
  | .object ((name, value) :: rest) =>
      '\x7b' :: (layout.lineBreak (level + 1) ++ (encodeText name ++ (':' :: ' ' ::
        (encode layout (level + 1) value ++
          (encodeMembers layout (level + 1) rest ++ (layout.lineBreak level ++ ['\x7d']))))))

def encodeItems (layout : Layout) (level : Nat) : List Json → List Char
  | [] => []
  | item :: rest =>
      layout.comma ++ (layout.lineBreak level ++ (encode layout level item ++
        encodeItems layout level rest))

def encodeMembers (layout : Layout) (level : Nat) : List (String × Json) → List Char
  | [] => []
  | (name, value) :: rest =>
      layout.comma ++ (layout.lineBreak level ++ (encodeText name ++ (':' :: ' ' ::
        (encode layout level value ++ encodeMembers layout level rest))))

end

def write (layout : Layout) (json : Json) : String :=
  String.ofList (encode layout 0 json)

end EasyConnect.Json
