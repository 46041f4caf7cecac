import DocTag.Text.Basic

namespace DocTag.Yaml.Binary

def sextet? (c : Char) : Option Nat :=
  if 'A' ≤ c ∧ c ≤ 'Z' then some (c.toNat - 'A'.toNat)
  else if 'a' ≤ c ∧ c ≤ 'z' then some (c.toNat - 'a'.toNat + 26)
  else if '0' ≤ c ∧ c ≤ '9' then some (c.toNat - '0'.toNat + 52)
  else if c = '+' then some 62
  else if c = '/' then some 63
  else none

def byte? (before digit : Nat) : (position : Nat) → Option UInt8
  | 1 => some (UInt8.ofNat (before * 4 + digit / 16))
  | 2 => some (UInt8.ofNat (before % 16 * 16 + digit / 4))
  | 3 => some (UInt8.ofNat (before % 4 * 64 + digit))
  | _ => none

/-- Reads on after `position` digits of a group, the last of which is `before`, and after `pads`
    equals signs in a row that count. As many of them as digits are missing end the bytes, and
    characters that are no digits are passed over. -/
def readFrom (position before pads : Nat) : Text → Option (List UInt8)
  | [] => if position = 0 then some [] else none
  | c :: rest =>
    if c = '=' then
      if position < 2 then readFrom position before pads rest
      else if 4 ≤ position + pads + 1 then some []
      else readFrom position before (pads + 1) rest
    else
      match sextet? c with
      | none => readFrom position before pads rest
      | some digit =>
        (readFrom ((position + 1) % 4) digit 0 rest).map fun bs =>
          (byte? before digit position).toList ++ bs

def read? (t : Text) : Option (List UInt8) :=
  if t.all fun c => c.toNat < 0x80 then readFrom 0 0 0 t else none

end DocTag.Yaml.Binary
