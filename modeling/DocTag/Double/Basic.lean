/-!
Numbers of double precision: a sign, 53 binary digits and a power of two. What lies between two of
them is the nearer one, and of two that are equally near the even one.
-/

namespace DocTag

/-- A finite number is `mantissa * 2 ^ exponent`. Its mantissa has 53 binary digits, or its exponent
    is the least one, so that each number is written in one way only. -/
inductive Double where
  | finite (negative : Bool) (mantissa : Nat) (exponent : Int)
  | infinite (negative : Bool)
  | undefined
deriving DecidableEq, Repr

namespace Double

def roundDiv (num den : Nat) : Nat :=
  let q := num / den
  let r := num % den
  if den < 2 * r ∨ (2 * r = den ∧ q % 2 = 1) then q + 1 else q

def leastExponent : Int := -1074

def zero (negative : Bool) : Double := finite negative 0 leastExponent

def scale (num den : Nat) (e : Int) : Nat × Nat :=
  (num * Nat.pow 2 (-e).toNat, den * Nat.pow 2 e.toNat)

def exponentOf (num den : Nat) : Int :=
  let e : Int := (num.log2 : Int) - den.log2 - 53
  let (n, d) := scale num den e
  max leastExponent (if Nat.pow 2 53 ≤ n / d then e + 1 else e)

def ofRatio (negative : Bool) (num den : Nat) : Double :=
  if num = 0 then zero negative
  else
    let e := exponentOf num den
    let (n, d) := scale num den e
    let m := roundDiv n d
    let (m, e) := if m = Nat.pow 2 53 then (Nat.pow 2 52, e + 1) else (m, e)
    if 971 < e then infinite negative else finite negative m e

def ofDecimal (negative : Bool) (digits : Nat) (exponent : Int) : Double :=
  let places : Int := (Nat.toDigits 10 digits).length + exponent
  if digits = 0 ∨ places < -330 then zero negative
  else if 330 < places then infinite negative
  else ofRatio negative (digits * Nat.pow 10 exponent.toNat) (Nat.pow 10 (-exponent).toNat)

def ofNat? (n : Nat) : Option Double :=
  match ofRatio false n 1 with
  | infinite _ => none
  | d => some d

def neg : Double → Double
  | finite s m e => finite (!s) m e
  | infinite s => infinite (!s)
  | undefined => undefined

def mul : Double → Double → Double
  | finite s m e, finite s' m' e' =>
    let (n, d) := scale (m * m') 1 (-(e + e'))
    ofRatio (s != s') n d
  | finite s m _, infinite s' => if m = 0 then undefined else infinite (s != s')
  | infinite s, finite s' m _ => if m = 0 then undefined else infinite (s != s')
  | infinite s, infinite s' => infinite (s != s')
  | _, _ => undefined

def units (negative : Bool) (m : Nat) (e : Int) : Int :=
  let n : Int := (m * Nat.pow 2 (e - leastExponent).toNat : Nat)
  if negative then -n else n

def add : Double → Double → Double
  | finite s m e, finite s' m' e' =>
    if m = 0 ∧ m' = 0 then zero (s && s')
    else
      let n := units s m e + units s' m' e'
      let (num, den) := scale n.natAbs 1 (-leastExponent)
      ofRatio (n < 0) num den
  | finite _ _ _, infinite s => infinite s
  | infinite s, finite _ _ _ => infinite s
  | infinite s, infinite s' => if s = s' then infinite s else undefined
  | _, _ => undefined

def isZero : Double → Bool
  | finite _ m _ => m == 0
  | _ => false

def toInt? : Double → Option Int
  | finite s m e =>
    let (n, d) := scale m 1 (-e)
    if n % d = 0 then some (if s then -(n / d : Nat) else (n / d : Nat)) else none
  | _ => none

end Double

end DocTag
