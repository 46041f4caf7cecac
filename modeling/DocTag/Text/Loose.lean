import DocTag.Text.Basic

namespace DocTag

/-- A text in which halves of characters may stand, which are none. -/
abbrev Loose := List (Option Char)

namespace Loose

def ofText (t : Text) : Loose := t.map some

def isHigh (n : Nat) : Bool := 0xD800 ≤ n && n < 0xDC00

def isLow (n : Nat) : Bool := 0xDC00 ≤ n && n < 0xE000

def single (n : Nat) : Option Char := if isHigh n || isLow n then none else some (Char.ofNat n)

def ofUnits : List Nat → Loose
  | [] => []
  | [n] => [single n]
  | n :: m :: rest =>
    if isHigh n && isLow m then
      some (Char.ofNat (0x10000 + (n - 0xD800) * 0x400 + (m - 0xDC00))) :: ofUnits rest
    else single n :: ofUnits (m :: rest)

theorem not_half (c : Char) : isHigh c.toNat = false ∧ isLow c.toNat = false := by
  have h : c.toNat < 0xD800 ∨ 0xDFFF < c.toNat := by
    cases c.valid with
    | inl h => exact .inl h
    | inr h => exact .inr h.1
  simp only [isHigh, isLow, Bool.and_eq_false_iff, decide_eq_false_iff_not]
  omega

theorem single_toNat (c : Char) : single c.toNat = some c := by
  simp [single, not_half c]

def whole? : Loose → Option Text
  | [] => some []
  | none :: _ => none
  | some c :: rest => (whole? rest).map (c :: ·)

@[simp] theorem whole?_ofText (t : Text) : whole? (ofText t) = some t := by
  induction t with
  | nil => rfl
  | cons c t ih =>
    change (whole? (ofText t)).map (c :: ·) = some (c :: t)
    rw [ih]
    rfl

def shown (t : Loose) : Text :=
  t.flatMap fun
    | some c => [c]
    -- one for each byte that the half would take up
    | none => List.replicate 3 (Char.ofNat 0xFFFD)

end Loose

end DocTag
