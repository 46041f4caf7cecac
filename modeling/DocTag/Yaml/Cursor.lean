import DocTag.Text.Basic

namespace DocTag.Yaml

inductive Fault where
  | malformed
  | noSuchValue
  | tooLarge
  | missingDigits
  | unknownWord
  | notMoment
  | notScalar
deriving DecidableEq, Repr

structure Placed where
  char : Char
  index : Nat
  line : Nat
  column : Nat
deriving DecidableEq, Repr

abbrev Cursor := List Placed

def isBreak (c : Char) : Bool :=
  c == '\n' || c.toNat == 0x85 || c.toNat == 0x2028 || c.toNat == 0x2029

def isGap (c : Char) : Bool := c == ' ' || c == '\t' || isBreak c

def isAdmitted (c : Char) : Bool :=
  let n := c.toNat
  n == 9 || n == 10 || (0x20 ≤ n && n ≤ 0x7E) || n == 0x85 || (0xA0 ≤ n && n ≤ 0xFFFD)
    || 0x10000 ≤ n

def byteOrderMark : Char := Char.ofNat 0xFEFF

def Placed.next (p : Placed) (c : Char) : Placed :=
  if isBreak p.char then ⟨c, p.index + 1, p.line + 1, 0⟩
  else ⟨c, p.index + 1, p.line, if p.char = byteOrderMark then p.column else p.column + 1⟩

def placeAfter (p : Placed) : Text → Cursor
  | [] => []
  | c :: rest => p.next c :: placeAfter (p.next c) rest

def placeAll : Text → Cursor
  | [] => []
  | c :: rest => ⟨c, 0, 0, 0⟩ :: placeAfter ⟨c, 0, 0, 0⟩ rest

def unifyLines : Text → Text
  | [] => []
  | '\x0d' :: '\n' :: rest => '\n' :: unifyLines rest
  | c :: rest => (if c = '\x0d' then '\n' else c) :: unifyLines rest

namespace Cursor

def char? (c : Cursor) : Option Char := c.head?.map Placed.char

def finish (c : Cursor) : Placed := (c.getLast?.map (·.next '\x00')).getD ⟨'\x00', 0, 0, 0⟩

def column (c : Cursor) : Nat := (c.head?.map Placed.column).getD 0

def startsWith (c : Cursor) (p : Char → Bool) : Bool := (c.char?.map p).getD false

def atGap (c : Cursor) : Bool := (c.char?.map isGap).getD true

def atLineEnd (c : Cursor) : Bool := (c.char?.map isBreak).getD true

def atSpace (c : Cursor) : Bool := (c.char?.map fun d => d == ' ' || isBreak d).getD true

def texts (c : Cursor) : Text := c.map Placed.char

def takeText (c : Cursor) (p : Char → Bool) : Text := texts (c.takeWhile fun d => p d.char)

def dropText (c : Cursor) (p : Char → Bool) : Cursor := c.dropWhile fun d => p d.char

def dropSpaces (c : Cursor) : Cursor := c.dropText (· == ' ')

def atMarker (m : Char) (c : Cursor) : Bool :=
  texts (c.take 3) == [m, m, m] && atGap (c.drop 3)

def atBoundary (c : Cursor) : Bool := c.atMarker '-' || c.atMarker '.'

def breakText (c : Char) : Text := if c.toNat = 0x85 then ['\n'] else [c]

def lineBreak (c : Cursor) : Text × Cursor :=
  match c with
  | [] => ([], [])
  | d :: rest => if isBreak d.char then (breakText d.char, rest) else ([], d :: rest)

def restOfLine (c : Cursor) : Except Fault Cursor :=
  let c := c.dropSpaces
  let c := if c.startsWith (· == '#') then c.dropText (!isBreak ·) else c
  if c.atLineEnd then .ok c.lineBreak.2 else .error .malformed

end Cursor

end DocTag.Yaml
