import DocTag.Text.Graphic

namespace DocTag.Text

def hex : (width : Nat) → Nat → Text
  | 0, _ => []
  | width + 1, n => hex width (n / 16) ++ [Nat.digitChar (n % 16)]

def showChar (mark : Char) (c : Char) : Text :=
  if c = mark ∨ c = '\\' then ['\\', c]
  else if c = '\n' then ['\\', 'n']
  else if c = '\r' then ['\\', 'r']
  else if c = '\t' then ['\\', 't']
  else if c = ' ' ∨ isGraphic c then [c]
  else if c.toNat < 0x100 then '\\' :: 'x' :: hex 2 c.toNat
  else if c.toNat < 0x10000 then '\\' :: 'u' :: hex 4 c.toNat
  else '\\' :: 'U' :: hex 8 c.toNat

def quoteMark (t : Text) : Char := if '\'' ∈ t ∧ '"' ∉ t then '"' else '\''

def quote (t : Text) : Text := quoteMark t :: t.flatMap (showChar (quoteMark t)) ++ [quoteMark t]

def quoteAll (ts : List Text) : Text := '[' :: [',', ' '].intercalate (ts.map quote) ++ [']']

end DocTag.Text
