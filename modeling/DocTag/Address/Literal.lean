import DocTag.Text.Quoted

namespace DocTag.Literal

def number (base : Nat) (t : Text) : Nat :=
  t.foldl (fun n c => n * base + (if c.isDigit then c.toNat - 48 else c.toLower.toNat - 87)) 0

def octet? (t : Text) : Option Nat :=
  if !t.isEmpty && t.all Char.isDigit && t.length ≤ 3 && (t.length = 1 || t.head? != some '0')
      && number 10 t ≤ 255 then
    some (number 10 t)
  else none

def octets? (t : Text) : Option (List Nat) :=
  match (t.splitOn '.').mapM octet? with
  | some [a, b, c, d] => some [a, b, c, d]
  | _ => none

def isHexDigit (c : Char) : Bool := c.isDigit || ('a' ≤ c.toLower && c.toLower ≤ 'f')

def group? (t : Text) : Option Nat :=
  if !t.isEmpty && t.length ≤ 4 && t.all isHexDigit then some (number 16 t) else none

def groups? (pieces : List Text) : Option (List Nat) :=
  match pieces.getLast?.bind octets? with
  | some [a, b, c, d] =>
    (pieces.dropLast.mapM group?).map (· ++ [a * 256 + b, c * 256 + d])
  | _ => pieces.mapM group?

def side? (read : List Text → Option (List Nat)) : List Text → Option (List Nat)
  | [[]] => some []
  | pieces => read pieces

def groupsOf? (t : Text) : Option (List Nat) :=
  let pieces := t.splitOn ':'
  let gaps := (pieces.zipIdx.filter fun (p, i) => p.isEmpty && 0 < i && i + 1 < pieces.length)
  match gaps with
  | [] =>
    match groups? pieces with
    | some groups => if groups.length = 8 then some groups else none
    | none => none
  | [(_, i)] =>
    match side? (List.mapM group?) (pieces.take i), side? groups? (pieces.drop (i + 1)) with
    | some high, some low =>
      if high.length + low.length < 8 then
        some (high ++ List.replicate (8 - high.length - low.length) 0 ++ low)
      else none
    | _, _ => none
  | _ => none

def longestZeros (groups : List Nat) : Nat × Nat :=
  (List.range groups.length).foldl (fun best i =>
    let run := ((groups.drop i).takeWhile (· == 0)).length
    if best.2 < run then (i, run) else best) (0, 0)

def showGroup (n : Nat) : Text := Nat.toDigits 16 n

def showGroups (groups : List Nat) : Text :=
  let shown (gs : List Nat) := [':'].intercalate (gs.map showGroup)
  let (start, run) := longestZeros groups
  if 2 ≤ run then shown (groups.take start) ++ [':', ':'] ++ shown (groups.drop (start + run))
  else shown groups

def scoped? (t : Text) : Option Text :=
  match t.dropWhile (· != '%') with
  | [] => (groupsOf? t).map showGroups
  | sign :: zone =>
    if zone.isEmpty || zone.contains '%' || zone.contains '/' then none
    else (groupsOf? (t.takeWhile (· != '%'))).map fun groups => showGroups groups ++ sign :: zone

def read? (t : Text) : Option Text :=
  match "IPv6:".toList.isPrefixOf? t with
  | some rest => (scoped? rest).map fun shown => "[IPv6:".toList ++ shown ++ [']']
  | none => (octets? t).map fun _ => '[' :: t ++ [']']

end DocTag.Literal
