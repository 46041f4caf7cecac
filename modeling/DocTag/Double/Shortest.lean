import DocTag.Double.Basic
import DocTag.Text.Digit

namespace DocTag.Double

def pointOf (num den : Nat) : Int :=
  if den ≤ num then (Nat.toDigits 10 (num / den)).length
  else 1 - ((Nat.toDigits 10 ((den - 1) / num)).length : Int)

def scaleTen (num den : Nat) (e : Int) : Nat × Nat :=
  (num * Nat.pow 10 (-e).toNat, den * Nat.pow 10 e.toNat)

/-- Of the two multiples of `10 ^ e` around `num / den` the one that reads back as `d`; when both
    do, the nearer one, or halfway the even one. -/
def nearest? (d : Double) (num den : Nat) (e : Int) : Option Nat :=
  let (n, m) := scaleTen num den e
  let low := n / m
  let readsBack (k : Nat) := decide (ofDecimal false k e = d)
  match readsBack low, readsBack (low + 1) with
  | true, true => some (roundDiv n m)
  | true, false => some low
  | false, true => some (low + 1)
  | false, false => none

def search (d : Double) (num den : Nat) (point : Int) : (left count : Nat) → Nat × Int
  | 0, count => (roundDiv (scaleTen num den (point - count)).1 (scaleTen num den (point - count)).2,
      point - count)
  | left + 1, count =>
    match nearest? d num den (point - count) with
    | some digits => (digits, point - count)
    | none => search d num den point left (count + 1)

def shortest (mantissa : Nat) (exponent : Int) : Text × Int :=
  let (num, den) := scale mantissa 1 (-exponent)
  let (digits, e) := search (finite false mantissa exponent) num den (pointOf num den) 16 1
  let t := Text.ofNat digits
  ((t.reverse.dropWhile (· == '0')).reverse, t.length + e)

def showExponent (e : Int) : Text :=
  let digits := Text.ofNat e.natAbs
  (if e < 0 then '-' else '+') :: (if digits.length < 2 then '0' :: digits else digits)

def layout (digits : Text) (before : Int) : Text :=
  let zeros (n : Int) : Text := List.replicate n.toNat '0'
  if -4 < before ∧ before ≤ 0 then '0' :: '.' :: zeros (-before) ++ digits
  else if 0 < before ∧ before < digits.length then
    digits.take before.toNat ++ '.' :: digits.drop before.toNat
  else if 0 < before ∧ before ≤ 16 then digits ++ zeros (before - digits.length) ++ ['.', '0']
  else
    digits.take 1 ++ (if digits.length = 1 then [] else '.' :: digits.drop 1)
      ++ 'e' :: showExponent (before - 1)

def render : Double → Text
  | finite negative m e =>
    (if negative then ['-'] else []) ++
      if m = 0 then ['0', '.', '0'] else layout (shortest m e).1 (shortest m e).2
  | infinite false => "inf".toList
  | infinite true => "-inf".toList
  | undefined => "nan".toList

end DocTag.Double
