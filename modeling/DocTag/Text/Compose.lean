import DocTag.Text.Basic
import DocTag.Text.Decomposition

namespace DocTag

def combiningClass (c : Char) : Nat :=
  if c.toNat < 0x300 then 0
  else
    (combiningRuns.findSome? fun (first, last, k) =>
      if first ≤ c.toNat ∧ c.toNat ≤ last then some k else none).getD 0

def decomposeHangul (n : Nat) : Text :=
  let i := n - 0xAC00
  let trail := i % 28
  Char.ofNat (0x1100 + i / 588) :: Char.ofNat (0x1161 + i % 588 / 28)
    :: if trail = 0 then [] else [Char.ofNat (0x11A7 + trail)]

def decomposeChar (c : Char) : Text :=
  let n := c.toNat
  if n < 0xC0 then [c]
  else if 0xAC00 ≤ n ∧ n ≤ 0xD7A3 then decomposeHangul n
  else
    match composites.lookup n with
    | some parts => parts.map Char.ofNat
    | none =>
      match decomposedOnly.lookup n with
      | some parts => parts.map Char.ofNat
      | none => [((variants.lookup n).map Char.ofNat).getD c]

def composeHangul? (a b : Nat) : Option Char :=
  if 0x1100 ≤ a ∧ a < 0x1113 ∧ 0x1161 ≤ b ∧ b < 0x1176 then
    some (Char.ofNat (0xAC00 + ((a - 0x1100) * 21 + (b - 0x1161)) * 28))
  else if 0xAC00 ≤ a ∧ a ≤ 0xD7A3 ∧ (a - 0xAC00) % 28 = 0 ∧ 0x11A7 < b ∧ b < 0x11C3 then
    some (Char.ofNat (a + (b - 0x11A7)))
  else none

def composePair? (a b : Char) : Option Char :=
  if b.toNat < 0x300 then none
  else
    match composeHangul? a.toNat b.toNat with
    | some c => some c
    | none =>
      let parts := (decomposeChar a ++ [b]).map Char.toNat
      (composites.find? fun row => row.2 == parts).map fun row => Char.ofNat row.1

namespace Text

def placeMark (c : Char) : Text → Text
  | [] => [c]
  | d :: rest =>
    if combiningClass d ≠ 0 ∧ combiningClass d < combiningClass c then d :: placeMark c rest
    else c :: d :: rest

def orderMarks (t : Text) : Text :=
  t.foldr (fun c rest => if combiningClass c = 0 then c :: rest else placeMark c rest) []

def decompose (t : Text) : Text := orderMarks (t.flatMap decomposeChar)

/-- Composes a text that follows the base `base` and the marks `marks` (the last one first) that
    could not be composed with it. A mark of the class of an earlier one is not composed. -/
def composeFrom (base : Char) (marks : Text) : Text → Text
  | [] => base :: marks.reverse
  | c :: rest =>
    let blocked :=
      match marks with
      | [] => false
      | m :: _ => decide (combiningClass c ≤ combiningClass m)
    match if blocked then none else composePair? base c with
    | some composed => composeFrom composed marks rest
    | none =>
      if combiningClass c = 0 then base :: marks.reverse ++ composeFrom c [] rest
      else composeFrom base (c :: marks) rest

def composeMarks : Text → Text
  | [] => []
  | c :: rest => if combiningClass c = 0 then composeFrom c [] rest else c :: composeMarks rest

def compose (t : Text) : Text := composeMarks t.decompose

end Text

end DocTag
