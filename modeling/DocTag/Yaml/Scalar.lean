import DocTag.Text.Digit
import DocTag.Text.Loose
import DocTag.Yaml.Cursor

namespace DocTag.Yaml

open Cursor

def foldBreaks (first breaks : Text) : Text :=
  if first ≠ ['\n'] then first ++ breaks else if breaks.isEmpty then [' '] else breaks

namespace Plain

def isFlowMark (c : Char) : Bool :=
  c == ',' || c == '[' || c == ']' || c == '\x7b' || c == '\x7d'

def endsAt (flow : Bool) (c : Char) (rest : Cursor) : Bool :=
  isGap c || (c == ':' && (rest.atGap || (flow && rest.startsWith isFlowMark)))
    || (flow && (isFlowMark c || c == '?'))

def word (flow : Bool) : Cursor → Text × Cursor
  | [] => ([], [])
  | d :: rest =>
    if endsAt flow d.char rest then ([], d :: rest)
    else
      let (t, rest) := word flow rest
      (d.char :: t, rest)

def breaks : Cursor → Option Text × Cursor
  | [] => (some [], [])
  | d :: rest =>
    if d.char = ' ' then breaks rest
    else if isBreak d.char then
      if Cursor.atBoundary rest then (none, rest)
      else
        let (t, rest) := breaks rest
        (t.map (breakText d.char ++ ·), rest)
    else (some [], d :: rest)

def between (c : Cursor) : Option Text × Bool × Cursor :=
  let spaces := c.takeText (· == ' ')
  let c := c.dropSpaces
  match c with
  | d :: rest =>
    if isBreak d.char then
      if Cursor.atBoundary rest then (none, true, rest)
      else
        let (t, rest) := breaks rest
        (t.map (foldBreaks (breakText d.char)), true, rest)
    else (if spaces.isEmpty then none else some spaces, false, c)
  | [] => (if spaces.isEmpty then none else some spaces, false, c)

/-- Reads words from a scalar indented by more than `indent`, after the text `gap` that joins them
    to what was read. The flag says whether the last thing read was a line break. -/
def words (flow : Bool) (indent : Int) (gap : Text) (newline : Bool) :
    (bound : Nat) → Cursor → Text × Bool × Cursor
  | 0, c => ([], newline, c)
  | bound + 1, c =>
    match word flow c with
    | ([], _) => ([], newline, c)
    | (t, c) =>
      match between c with
      | (none, newline, c) => (gap ++ t, newline, c)
      | (some next, newline, c) =>
        if c.startsWith (· == '#') || (!flow && (c.column : Int) ≤ indent) then
          (gap ++ t, newline, c)
        else
          let (more, newline, c) := words flow indent next newline bound c
          (gap ++ t ++ more, newline, c)

def read (flow : Bool) (indent : Int) (c : Cursor) : Text × Bool × Cursor :=
  words flow indent [] false c.length c

end Plain

namespace Quoted

def isTabOrSpace (c : Char) : Bool := c == ' ' || c == '\t'

def breaks : (bound : Nat) → Cursor → Except Fault (Text × Cursor)
  | 0, c => .ok ([], c)
  | bound + 1, c =>
    if c.atBoundary then .error .malformed
    else
      match c.dropText isTabOrSpace with
      | d :: rest =>
        if isBreak d.char then
          (breaks bound rest).map fun (t, rest) => (breakText d.char ++ t, rest)
        else .ok ([], d :: rest)
      | [] => .ok ([], [])

def escapes : List (Char × Char) :=
  [('0', '\x00'), ('a', '\x07'), ('b', '\x08'), ('t', '\t'), ('\t', '\t'), ('n', '\n'),
    ('v', '\x0b'), ('f', '\x0c'), ('r', '\x0d'), ('e', '\x1b'), (' ', ' '), ('"', '"'),
    ('\\', '\\'), ('/', '/'), ('N', Char.ofNat 0x85), ('_', Char.ofNat 0xA0),
    ('L', Char.ofNat 0x2028), ('P', Char.ofNat 0x2029)]

def codeLength? (c : Char) : Option Nat :=
  if c = 'x' then some 2 else if c = 'u' then some 4 else if c = 'U' then some 8 else none

def character (code : Nat) : Except Fault (Option Char) :=
  if code.isValidChar then .ok (some (Char.ofNat code))
  else if code < 0xE000 then .ok none
  else if code < 0x80000000 then .error .noSuchValue
  else .error .tooLarge

def escape (bound : Nat) (c : Cursor) : Except Fault (Loose × Cursor) :=
  match c with
  | [] => .error .malformed
  | d :: rest =>
    match escapes.lookup d.char with
    | some e => .ok ([some e], rest)
    | none =>
      match codeLength? d.char with
      | some n =>
        let digits := texts (rest.take n)
        match Text.inBase? 16 digits with
        | some code =>
          if digits.length < n then .error .malformed
          else (character code).map fun c => ([c], rest.drop n)
        | none => .error .malformed
      | none =>
        if isBreak d.char then (breaks bound rest).map fun (t, rest) => (.ofText t, rest)
        else .error .malformed

def read (mark : Char) : (bound : Nat) → Cursor → Except Fault (Loose × Cursor)
  | 0, _ => .error .malformed
  | _, [] => .error .malformed
  | bound + 1, d :: rest =>
    if d.char = mark then
      if mark = '\'' ∧ Cursor.char? rest = some '\'' then
        (read mark bound (rest.drop 1)).map fun (t, rest) => (some '\'' :: t, rest)
      else .ok ([], rest)
    else if d.char = '\\' ∧ mark = '"' then
      match escape bound rest with
      | .error why => .error why
      | .ok (t, rest) => (read mark bound rest).map fun (more, rest) => (t ++ more, rest)
    else if isGap d.char then
      let spaces := Cursor.takeText (d :: rest) isTabOrSpace
      match Cursor.dropText (d :: rest) isTabOrSpace with
      | [] => .error .malformed
      | e :: rest =>
        if isBreak e.char then
          match breaks bound rest with
          | .error why => .error why
          | .ok (t, rest) =>
            (read mark bound rest).map fun (more, rest) =>
              (.ofText (foldBreaks (breakText e.char) t) ++ more, rest)
        else (read mark bound (e :: rest)).map fun (more, rest) => (.ofText spaces ++ more, rest)
    else (read mark bound rest).map fun (t, rest) => (some d.char :: t, rest)

end Quoted

namespace Block

inductive Chomping where
  | strip
  | clip
  | keep
deriving DecidableEq, Repr

def chomping? (c : Char) : Option Chomping :=
  if c = '+' then some .keep else if c = '-' then some .strip else none

def header (c : Cursor) : Except Fault (Chomping × Option Nat × Cursor) :=
  let digit? (c : Cursor) : Option Nat :=
    c.char?.bind fun d => if d.isDigit then some (d.toNat - '0'.toNat) else none
  let mark? (c : Cursor) : Option Chomping := c.char?.bind chomping?
  let (chomping, increment, c) : Chomping × Option Nat × Cursor :=
    match mark? c with
    | some m =>
      match digit? (c.drop 1) with
      | some n => (m, some n, c.drop 2)
      | none => (m, none, c.drop 1)
    | none =>
      match digit? c with
      | some n =>
        match mark? (c.drop 1) with
        | some m => (m, some n, c.drop 2)
        | none => (.clip, some n, c.drop 1)
      | none => (.clip, none, c)
  if increment = some 0 ∨ !c.atSpace then .error .malformed
  else (restOfLine c).map fun c => (chomping, increment, c)

def leading (column : Nat) : Cursor → Text × Nat × Cursor
  | [] => ([], column, [])
  | d :: rest =>
    if d.char = ' ' then leading (max column (d.column + 1)) rest
    else if isBreak d.char then
      let (t, column, rest) := leading column rest
      (breakText d.char ++ t, column, rest)
    else ([], column, d :: rest)

def breaks (indent : Nat) : Cursor → Text × Cursor
  | [] => ([], [])
  | d :: rest =>
    if d.char = ' ' ∧ d.column < indent then breaks indent rest
    else if isBreak d.char then
      let (t, rest) := breaks indent rest
      (breakText d.char ++ t, rest)
    else ([], d :: rest)

def inBlock (indent : Nat) (c : Cursor) : Bool := !c.isEmpty && c.column == indent

def lines (folded : Bool) (indent : Nat) (before : Text) :
    (bound : Nat) → Cursor → Text × Text × Text × Cursor
  | 0, c => ([], [], before, c)
  | bound + 1, c =>
    if inBlock indent c then
      let line := c.takeText (!isBreak ·)
      let (last, rest) := (c.dropText (!isBreak ·)).lineBreak
      let (empty, rest) := breaks indent rest
      if inBlock indent rest then
        let flush (c : Cursor) := !c.startsWith Quoted.isTabOrSpace
        let joint : Text :=
          if folded ∧ last = ['\n'] ∧ flush c ∧ flush rest then
            if empty.isEmpty then [' '] else []
          else last
        let (more, last, after, rest) := lines folded indent empty bound rest
        (before ++ line ++ joint ++ more, last, after, rest)
      else (before ++ line, last, empty, rest)
    else ([], [], before, c)

def read (folded : Bool) (indent : Int) (c : Cursor) : Except Fault (Text × Cursor) :=
  match header c with
  | .error why => .error why
  | .ok (chomping, increment, c) =>
    let least := (max (indent + 1) 1).toNat
    let (before, column, c) : Text × Nat × Cursor :=
      match increment with
      | some n =>
        let (t, rest) := breaks (least + n - 1) c
        (t, least + n - 1, rest)
      | none =>
        let (t, column, rest) := leading 0 c
        (t, max least column, rest)
    let (t, last, after, c) := lines folded column before c.length c
    let ending := (if chomping = .strip then [] else last)
      ++ (if chomping = .keep then after else [])
    .ok (t ++ ending, c)

end Block

end DocTag.Yaml
