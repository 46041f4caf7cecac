import DocTag.Datum
import DocTag.Double.Read
import DocTag.Yaml.Cursor

namespace DocTag.Yaml.Number

def plainChar (c : Char) : Char :=
  if c.toNat < 0x7F then c
  else if isBlank c then ' '
  else ((Text.digit? c).map Nat.digitChar).getD c

def isSpace (c : Char) : Bool := c == ' ' || (9 ≤ c.toNat && c.toNat ≤ 13)

def plain (t : Text) : Text :=
  let t := (t.map plainChar).dropWhile isSpace
  (t.reverse.dropWhile isSpace).reverse

def dropBase (base : Nat) (t : Text) : Text :=
  match t with
  | '0' :: c :: rest =>
    let c := c.toLower
    if (base = 2 ∧ c = 'b') ∨ (base = 8 ∧ c = 'o') ∨ (base = 16 ∧ c = 'x') then rest else t
  | _ => t

def inBase (base : Nat) (t : Text) : Except Fault Int :=
  let (negative, t) := Double.sign (plain t)
  let t := dropBase base t
  if base = 10 ∧ 4300 < t.length then .error .noSuchValue
  else
    match Text.inBase? base t with
    | some n => .ok (if negative then -(n : Int) else n)
    | none => .error .noSuchValue

def magnitude (t : Text) : Except Fault Int :=
  match t with
  | [] => .error .missingDigits
  | ['0'] => .ok 0
  | '0' :: 'b' :: rest => inBase 2 rest
  | '0' :: 'x' :: rest => inBase 16 rest
  | '0' :: _ => inBase 8 t
  | _ =>
    if t.contains ':' then
      ((t.splitOn ':').mapM (inBase 10)).map fun ns => ns.foldl (fun n d => n * 60 + d) 0
    else inBase 10 t

def withoutGaps (t : Text) : Text := t.filter (· != '_')

def int (t : Text) : Except Fault Int :=
  match withoutGaps t with
  | [] => .error .missingDigits
  | t =>
    let (negative, t) := Double.sign t
    (magnitude t).map fun n => if negative then -n else n

def part (t : Text) : Except Fault Double :=
  match Double.ofText? (plain t) with
  | some d => .ok d
  | none => .error .noSuchValue

def sixties (weight : Nat) (sum : Double) : List Double → Except Fault Double
  | [] => .ok sum
  | d :: rest =>
    match Double.ofNat? weight with
    | none => .error .tooLarge
    | some w => sixties (weight * 60) (sum.add (d.mul w)) rest

def real (mark : Nat) (t : Text) : Except Fault Datum :=
  match (withoutGaps t).map Char.toLower with
  | [] => .error .missingDigits
  | t =>
    let (negative, t) := Double.sign t
    let signed (d : Double) : Datum :=
      if d = .undefined then .undefined mark else .real (if negative then d.neg else d)
    if t = ".inf".toList then .ok (.real (.infinite negative))
    else if t = ".nan".toList then .ok (.real .undefined)
    else if t.contains ':' then do
      let parts ← (t.splitOn ':').mapM part
      return signed (← sixties 1 (.zero false) parts.reverse)
    else (part t).map signed

end DocTag.Yaml.Number
