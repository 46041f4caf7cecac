import DocTag.Json.Basic
import DocTag.Text.Digit

/-!
The reading of JSON. Besides the numbers of the format, the words for infinity and for no number
are numbers.
-/

namespace DocTag.Json

def isSpace (c : Char) : Bool := c == ' ' || c == '\t' || c == '\n' || c == '\r'

def skip (t : Text) : Text := t.dropWhile isSpace

def unit? (a b c d : Char) : Option Nat :=
  match Text.hexDigit? a, Text.hexDigit? b, Text.hexDigit? c, Text.hexDigit? d with
  | some a, some b, some c, some d => some (((a * 16 + b) * 16 + c) * 16 + d)
  | _, _, _, _ => none

def escape? (c : Char) : Option Char :=
  if c = '"' then some '"'
  else if c = '\\' then some '\\'
  else if c = '/' then some '/'
  else if c = 'b' then some '\x08'
  else if c = 'f' then some '\x0c'
  else if c = 'n' then some '\n'
  else if c = 'r' then some '\r'
  else if c = 't' then some '\t'
  else none

def readUnits : Text → Option (List Nat × Text)
  | [] => none
  | '"' :: rest => some ([], rest)
  | '\\' :: 'u' :: a :: b :: c :: d :: rest =>
    match unit? a b c d with
    | none => none
    | some n => (readUnits rest).map fun (t, rest) => (n :: t, rest)
  | '\\' :: c :: rest =>
    match escape? c with
    | none => none
    | some c => (readUnits rest).map fun (t, rest) => (c.toNat :: t, rest)
  | c :: rest =>
    if c.toNat < 0x20 then none else (readUnits rest).map fun (t, rest) => (c.toNat :: t, rest)

def readText (t : Text) : Option (Loose × Text) :=
  (readUnits t).map fun (units, rest) => (.ofUnits units, rest)

def ofLoose (t : Loose) : Json :=
  match t.whole? with
  | some t => text t
  | none => garbled t

def ofMembers (members : List (Loose × Json)) : Json :=
  match members.mapM fun (key, value) => key.whole?.map fun key => (key, value) with
  | some members => object members
  | none => mixed (members.map Prod.fst) (members.map Prod.snd)

def readFraction (t : Text) : Text × Text :=
  match t with
  | '.' :: rest =>
    match rest.takeWhile Text.isDigit with
    | [] => ([], t)
    | digits => ('.' :: digits, rest.dropWhile Text.isDigit)
  | _ => ([], t)

def readExponent (t : Text) : Text × Text :=
  match t with
  | e :: rest =>
    if e = 'e' ∨ e = 'E' then
      let (sign, rest) : Text × Text :=
        match rest with
        | '+' :: rest => (['+'], rest)
        | '-' :: rest => (['-'], rest)
        | _ => ([], rest)
      match rest.takeWhile Text.isDigit with
      | [] => ([], t)
      | digits => (e :: sign ++ digits, rest.dropWhile Text.isDigit)
    else ([], t)
  | [] => ([], t)

def readWhole? (t : Text) : Option (Text × Text) :=
  match t with
  | '0' :: rest => some (['0'], rest)
  | _ =>
    match t.takeWhile Text.isDigit with
    | [] => none
    | digits => some (digits, t.dropWhile Text.isDigit)

def readNumber? (t : Text) : Option (Text × Text) :=
  let (sign, rest) : Text × Text :=
    match t with
    | '-' :: rest => (['-'], rest)
    | _ => ([], t)
  match "Infinity".toList.isPrefixOf? rest with
  | some rest => some (sign ++ "Infinity".toList, rest)
  | none =>
    match readWhole? rest with
    | none => ("NaN".toList.isPrefixOf? t).map fun rest => ("NaN".toList, rest)
    | some (whole, rest) =>
      let (fraction, rest) := readFraction rest
      let (exponent, rest) := readExponent rest
      some (sign ++ whole ++ fraction ++ exponent, rest)

def readWord? (t : Text) : Option (Json × Text) :=
  match "null".toList.isPrefixOf? t with
  | some rest => some (null, rest)
  | none =>
    match "true".toList.isPrefixOf? t with
    | some rest => some (bool true, rest)
    | none => ("false".toList.isPrefixOf? t).map fun rest => (bool false, rest)

mutual

-- The bound limits how deep and how long a value may be.
def readValue : (bound : Nat) → Text → Option (Json × Text)
  | 0, _ => none
  | bound + 1, t =>
    match t with
    | '"' :: rest => (readText rest).map fun (t, rest) => (ofLoose t, rest)
    | '[' :: rest =>
      match skip rest with
      | ']' :: rest => some (list [], rest)
      | rest => (readItems bound rest).map fun (items, rest) => (list items, rest)
    | '\x7b' :: rest =>
      match skip rest with
      | '\x7d' :: rest => some (object [], rest)
      | rest => (readMembers bound rest).map fun (members, rest) => (ofMembers members, rest)
    | _ =>
      match readWord? t with
      | some r => some r
      | none => (readNumber? t).map fun (literal, rest) => (number literal, rest)

def readItems : (bound : Nat) → Text → Option (List Json × Text)
  | 0, _ => none
  | bound + 1, t =>
    match readValue bound t with
    | none => none
    | some (item, rest) =>
      match skip rest with
      | ']' :: rest => some ([item], rest)
      | ',' :: rest => (readItems bound (skip rest)).map fun (items, rest) => (item :: items, rest)
      | _ => none

def readMembers : (bound : Nat) → Text → Option (List (Loose × Json) × Text)
  | 0, _ => none
  | bound + 1, t =>
    match t with
    | '"' :: rest =>
      match readText rest with
      | none => none
      | some (key, rest) =>
        match skip rest with
        | ':' :: rest =>
          match readValue bound (skip rest) with
          | none => none
          | some (value, rest) =>
            match skip rest with
            | '\x7d' :: rest => some ([(key, value)], rest)
            | ',' :: rest =>
              (readMembers bound (skip rest)).map fun (members, rest) =>
                ((key, value) :: members, rest)
            | _ => none
        | _ => none
    | _ => none

end

def isLong (literal : Text) : Bool :=
  let digits := (['-'].isPrefixOf? literal).getD literal
  -- Longer numbers are not worked out.
  4300 < digits.length && digits.all Text.isDigit

mutual

def isModest : Json → Bool
  | number literal => !isLong literal
  | list items => areModest items
  | object members => haveModest members
  | mixed _ values => areModest values
  | _ => true

def areModest : List Json → Bool
  | [] => true
  | item :: items => item.isModest && areModest items

def haveModest : List (Text × Json) → Bool
  | [] => true
  | (_, value) :: members => value.isModest && haveModest members

end

def read? (t : Text) : Option Json :=
  match readValue (2 * t.length + 2) (skip t) with
  | none => none
  | some (value, rest) => if (skip rest).isEmpty then some value else none

end DocTag.Json
