import DocTag.Double.Basic
import DocTag.Text.Digit

namespace DocTag.Double

def digits (t : Text) : Text × Text := (t.takeWhile Text.isDigit, t.dropWhile Text.isDigit)

def sign (t : Text) : Bool × Text :=
  match t with
  | '-' :: rest => (true, rest)
  | '+' :: rest => (false, rest)
  | _ => (false, t)

def exponent? (t : Text) : Option Int :=
  match t with
  | [] => some 0
  | e :: rest =>
    if e = 'e' ∨ e = 'E' then
      let (negative, rest) := sign rest
      (Text.inBase? 10 rest).map fun n => if negative then -(n : Int) else n
    else none

def unsigned? (negative : Bool) (t : Text) : Option Double :=
  let (whole, rest) := digits t
  let (fraction, rest) : Text × Text :=
    match rest with
    | '.' :: rest => digits rest
    | _ => ([], rest)
  match Text.inBase? 10 (whole ++ fraction), exponent? rest with
  | some n, some e => some (ofDecimal negative n (e - fraction.length))
  | _, _ => none

def ofText? (t : Text) : Option Double :=
  let (negative, t) := sign t
  let word := t.map Char.toLower
  if word = "inf".toList ∨ word = "infinity".toList then some (infinite negative)
  else if word = "nan".toList then some undefined
  else unsigned? negative t

end DocTag.Double
