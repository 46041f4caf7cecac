import DocTag.Double.Shortest
import DocTag.Moment
import DocTag.Text.Loose
import DocTag.Text.Quoted

/-!
The values that configuration can hold, whatever format they were written in, and the keys among
them.
-/

namespace DocTag

inductive Datum where
  | null
  | bool (b : Bool)
  | int (n : Int)
  | real (r : Double)
  -- A number that is none, and that is the same as another one only with the same mark.
  | undefined (mark : Nat)
  | moment (m : Moment)
  | text (t : Text)
  -- A text with halves of characters in it.
  | garbled (t : Loose)
  | bytes (bs : List UInt8)
  | list (items : List Datum)
  | pair (first second : Datum)
  | set (items : List Datum)
  | mapping (pairs : List (Datum × Datum))
deriving Repr, Inhabited

/-- What a value counts as when it is a key. Truth values and whole numbers of all types are the
    same key when they are equal, and so are points in time in different zones. -/
inductive Key where
  | null
  | number (n : Int)
  | real (r : Double)
  | undefined (mark : Nat)
  | day (ordinal : Nat)
  | moment (zoned : Bool) (elapsed : Int)
  | text (t : Text)
  | garbled (t : Loose)
  | bytes (bs : List UInt8)
  | pair (first second : Key)
deriving DecidableEq, Repr

namespace Datum

def ofLoose (t : Loose) : Datum :=
  match t.whole? with
  | some t => text t
  | none => garbled t

def asKey : Datum → Option Key
  | null => some .null
  | bool b => some (.number (if b then 1 else 0))
  | int n => some (.number n)
  | real r =>
    match r.toInt? with
    | some n => some (.number n)
    | none => some (.real r)
  | undefined mark => some (.undefined mark)
  | moment m =>
    match m.clock with
    | none => some (.day m.ordinal)
    | some _ => some (.moment m.zone.isSome m.elapsed)
  | text t => some (.text t)
  | garbled t => some (.garbled t)
  | bytes bs => some (.bytes bs)
  | pair a b =>
    match a.asKey, b.asKey with
    | some a, some b => some (.pair a b)
    | _, _ => none
  | list _ | set _ | mapping _ => none

def isKey (d : Datum) : Bool := d.asKey.isSome

def put (key : Datum) (value : α) : List (Datum × α) → List (Datum × α)
  | [] => [(key, value)]
  | (k, v) :: rest =>
    if k.asKey = key.asKey then (k, value) :: rest else (k, v) :: put key value rest

def valueAt (key : Datum) (pairs : List (Datum × α)) : Option α :=
  (pairs.find? fun e => e.1.asKey = key.asKey).map Prod.snd

def putAll (pairs into : List (Datum × α)) : List (Datum × α) :=
  pairs.foldl (fun m (k, v) => put k v m) into

mutual

/-- A value over another one. Of two mappings all keys stay, those of the lower one first. -/
def atop : (high low : Datum) → Datum
  | mapping high, mapping low => mapping (atopAll high low)
  | high, _ => high

def atopAll : (high low : List (Datum × Datum)) → List (Datum × Datum)
  | [], low => low
  | (key, value) :: high, low =>
    atopAll high <| put key
      (match valueAt key low with
        | some under => atop value under
        | none => value) low

end

-- An empty value counts as missing.
def isGiven : Datum → Bool
  | null | bool false | int 0 | text [] | bytes [] | list [] | set [] | mapping [] => false
  | real r => !r.isZero
  | _ => true

-- A list or a pair stands for each of its parts.
def parts : Datum → List Datum
  | list items => items
  | pair first second => [first, second]
  | d => [d]

def showByte (mark : Char) (b : UInt8) : Text :=
  let c := Char.ofNat b.toNat
  if 0x80 ≤ b.toNat then '\\' :: 'x' :: Text.hex 2 b.toNat else Text.showChar mark c

def showBytes (bs : List UInt8) : Text :=
  let mark := Text.quoteMark (bs.map fun b => Char.ofNat b.toNat)
  'b' :: mark :: bs.flatMap (showByte mark) ++ [mark]

def keyName : Datum → Text
  | null => "None".toList
  | bool b => if b then ['1'] else ['0']
  | int n =>
    if Nat.pow 10 4300 ≤ n.natAbs then "<unprintable int object>".toList else Text.ofInt n
  | real r => r.render
  | undefined _ => Double.undefined.render
  | moment m => m.render
  | text t => t
  | garbled t => t.shown
  | bytes bs => showBytes bs
  | list _ | pair _ _ | set _ | mapping _ => []

end Datum

end DocTag
