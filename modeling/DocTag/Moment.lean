import DocTag.Text.Digit

namespace DocTag

structure Moment where
  year : Nat
  month : Nat
  day : Nat
  clock : Option (Nat × Nat × Nat) := none
  fraction : Text := []
  zone : Option (Bool × Nat × Nat) := none
deriving DecidableEq, Repr

namespace Moment

def isLeap (year : Nat) : Bool := year % 4 == 0 && (year % 100 != 0 || year % 400 == 0)

def daysIn (year month : Nat) : Nat :=
  if month = 2 then if isLeap year then 29 else 28
  else if month = 4 ∨ month = 6 ∨ month = 9 ∨ month = 11 then 30
  else 31

def isValid (m : Moment) : Bool :=
  1 ≤ m.year && 1 ≤ m.month && m.month ≤ 12 && 1 ≤ m.day && m.day ≤ daysIn m.year m.month
    && (match m.clock with
      | none => true
      | some (h, min, s) => h < 24 && min < 60 && s < 60)
    && match m.zone with
      | none => true
      | some (_, h, min) => h * 60 + min < 1440

def millionths (m : Moment) : Nat :=
  (Text.inBase? 10 ((m.fraction ++ List.replicate 6 '0').take 6)).getD 0

def ordinal (m : Moment) : Nat :=
  let y := m.year - 1
  let months := (List.range (m.month - 1)).map fun i => daysIn m.year (i + 1)
  y * 365 + y / 4 - y / 100 + y / 400 + months.foldl (· + ·) 0 + m.day

def ahead (m : Moment) : Int :=
  match m.zone with
  | none => 0
  | some (negative, h, min) => if negative then -(h * 60 + min : Nat) else (h * 60 + min : Nat)

def elapsed (m : Moment) : Int :=
  let (h, min, s) := m.clock.getD (0, 0, 0)
  let minutes : Int := ((m.ordinal * 24 + h) * 60 + min : Nat)
  ((minutes - m.ahead) * 60 + s) * 1000000 + m.millionths

def showZone : Bool × Nat × Nat → Text
  | (negative, h, min) =>
    let seconds := h * 3600 + min * 60
    if seconds = 0 then "datetime.timezone.utc".toList
    else
      "datetime.timezone(datetime.timedelta(".toList
        ++ (if negative then
              "days=-1, seconds=".toList ++ Text.ofNat (86400 - seconds)
            else "seconds=".toList ++ Text.ofNat seconds)
        ++ "))".toList

def render (m : Moment) : Text :=
  let day := [Text.ofNat m.year, Text.ofNat m.month, Text.ofNat m.day]
  let parts (ts : List Text) := [',', ' '].intercalate ts ++ [')']
  match m.clock with
  | none => "datetime.date(".toList ++ parts day
  | some (h, min, s) =>
    let small := if m.millionths = 0 then [] else [Text.ofNat m.millionths]
    let seconds := if small.isEmpty && s = 0 then [] else [Text.ofNat s]
    let zone := match m.zone with
      | none => []
      | some z => ["tzinfo=".toList ++ showZone z]
    "datetime.datetime(".toList
      ++ parts (day ++ [Text.ofNat h, Text.ofNat min] ++ seconds ++ small ++ zone)

end Moment

end DocTag
