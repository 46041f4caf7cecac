import DocTag.Moment
import DocTag.Yaml.Cursor

namespace DocTag.Yaml

inductive Kind where
  | null | bool | int | float | binary | timestamp | omap | pairs | set | str | seq | map | merge
  | value | unknown
deriving DecidableEq, Repr

namespace Kind

def names : List (Text × Kind) :=
  [("null".toList, null), ("bool".toList, bool), ("int".toList, int), ("float".toList, float),
    ("binary".toList, binary), ("timestamp".toList, timestamp), ("omap".toList, omap),
    ("pairs".toList, pairs), ("set".toList, set), ("str".toList, str), ("seq".toList, seq),
    ("map".toList, map), ("merge".toList, merge), ("value".toList, value)]

def lead : Text := "tag:yaml.org,2002:".toList

def ofTag (tag : Text) : Kind :=
  ((lead.isPrefixOf? tag).bind fun name => names.lookup name).getD unknown

end Kind

namespace Form

open Text (isDigit)

def isSpacedDigit (c : Char) : Bool := isDigit c || c == '_'

def dropSign (t : Text) : Text :=
  match t with
  | '+' :: rest | '-' :: rest => rest
  | _ => t

def isBool (t : Text) : Bool :=
  ["yes", "Yes", "YES", "no", "No", "NO", "true", "True", "TRUE", "false", "False", "FALSE", "on",
    "On", "ON", "off", "Off", "OFF"].any fun word => word.toList == t

def isNull (t : Text) : Bool := ["", "~", "null", "Null", "NULL"].any fun word => word.toList == t

def isSixtieth : Text → Bool
  | [a] => isDigit a
  | [a, b] => '0' ≤ a && a ≤ '5' && isDigit b
  | _ => false

def isDigits (first : Char → Bool) : Text → Bool
  | [] => false
  | c :: rest => first c && rest.all isSpacedDigit

def isPositive (c : Char) : Bool := '1' ≤ c && c ≤ '9'

def isInt (t : Text) : Bool :=
  let t := dropSign t
  t == ['0'] || isDigits isPositive t
    || match t with
      | '0' :: 'b' :: rest => !rest.isEmpty && rest.all fun c => c == '0' || c == '1' || c == '_'
      | '0' :: 'x' :: rest =>
        !rest.isEmpty && rest.all fun c =>
          isSpacedDigit c || ('a' ≤ c && c ≤ 'f') || ('A' ≤ c && c ≤ 'F')
      | '0' :: rest => !rest.isEmpty && rest.all fun c => ('0' ≤ c && c ≤ '7') || c == '_'
      | _ =>
        match t.splitOn ':' with
        | first :: second :: more =>
          isDigits isPositive first && (second :: more).all isSixtieth
        | _ => false

def isExponent : Text → Bool
  | [] => true
  | e :: sign :: digits =>
    (e == 'e' || e == 'E') && (sign == '+' || sign == '-') && !digits.isEmpty && digits.all isDigit
  | _ => false

def splitPoint? (t : Text) : Option (Text × Text) :=
  match t.dropWhile (· != '.') with
  | [] => none
  | _ :: rest => some (t.takeWhile (· != '.'), rest)

def isFloat (t : Text) : Bool :=
  let isFraction (t : Text) := isExponent (t.dropWhile isSpacedDigit)
  let ends (words : List String) (t : Text) := words.any fun word => word.toList == t
  match splitPoint? (dropSign t) with
  | none => false
  | some ([], rest) =>
    ends ["inf", "Inf", "INF"] rest
      || (t.head? == some '.'
        && (ends ["nan", "NaN", "NAN"] rest
          || ((rest.head?.map isDigit).getD false && isFraction rest)))
  | some (whole, rest) =>
    (isDigits isDigit whole && isFraction rest)
      || match whole.splitOn ':' with
        | first :: second :: more =>
          isDigits isDigit first && (second :: more).all isSixtieth && rest.all isSpacedDigit
        | _ => false

def digits? (least most : Nat) (t : Text) : Option (Nat × Text) :=
  let ds := (t.take most).takeWhile isDigit
  if least ≤ ds.length then (Text.inBase? 10 ds).map fun n => (n, t.drop ds.length) else none

def mark? (c : Char) (t : Text) : Option Text := [c].isPrefixOf? t

def isInlineGap (c : Char) : Bool := c == ' ' || c == '\t'

def zone? (t : Text) : Option (Option (Bool × Nat × Nat)) :=
  match t.dropWhile isInlineGap with
  | [] => if t.isEmpty then some none else none
  | ['Z'] => some (some (false, 0, 0))
  | sign :: rest =>
    if sign = '+' ∨ sign = '-' then do
      let (hours, rest) ← digits? 1 2 rest
      if rest.isEmpty then return some (sign == '-', hours, 0)
      else
        let rest ← mark? ':' rest
        let (minutes, rest) ← digits? 2 2 rest
        if rest.isEmpty then return some (sign == '-', hours, minutes) else none
    else none

def date? (least : Nat) (t : Text) : Option Moment := do
  let (year, rest) ← digits? 4 4 t
  let rest ← mark? '-' rest
  let (month, rest) ← digits? least 2 rest
  let rest ← mark? '-' rest
  let (day, rest) ← digits? least 2 rest
  if rest.isEmpty then return { year, month, day } else none

def dropTimeMark? (t : Text) : Option Text :=
  match t with
  | 'T' :: rest | 't' :: rest => some rest
  | c :: rest => if isInlineGap c then some (rest.dropWhile isInlineGap) else none
  | [] => none

def dateTime? (t : Text) : Option Moment := do
  let (year, rest) ← digits? 4 4 t
  let rest ← mark? '-' rest
  let (month, rest) ← digits? 1 2 rest
  let rest ← mark? '-' rest
  let (day, rest) ← digits? 1 2 rest
  let rest ← dropTimeMark? rest
  let (hour, rest) ← digits? 1 2 rest
  let rest ← mark? ':' rest
  let (minute, rest) ← digits? 2 2 rest
  let rest ← mark? ':' rest
  let (second, rest) ← digits? 2 2 rest
  let (fraction, rest) : Text × Text :=
    match rest with
    | '.' :: rest => (rest.takeWhile isDigit, rest.dropWhile isDigit)
    | _ => ([], rest)
  let zone ← zone? rest
  return { year, month, day, clock := some (hour, minute, second), fraction, zone }

def isMoment (t : Text) : Bool := (date? 2 t).isSome || (dateTime? t).isSome

end Form

def Kind.ofForm (t : Text) : Kind :=
  if Form.isBool t then bool
  else if Form.isFloat t then float
  else if Form.isInt t then int
  else if t = ['<', '<'] then merge
  else if Form.isNull t then null
  else if Form.isMoment t then timestamp
  else if t = ['='] then value
  else if t = ['!'] ∨ t = ['&'] ∨ t = ['*'] then unknown
  else str

def Form.body (t : Text) : Text :=
  match ['\n'].isSuffixOf? t with
  | none | some [] => t
  | some body => body

def Kind.ofPlain (t : Text) : Kind := ofForm (Form.body t)

end DocTag.Yaml
