import DocTag.Yaml.Scalar

namespace DocTag.Yaml

inductive Token where
  | versionDirective (major : Nat)
  | tagDirective (handle lead : Text)
  | otherDirective
  | documentStart
  | documentEnd
  | blockSequenceStart
  | blockMappingStart
  | blockEnd
  | flowSequenceStart
  | flowSequenceEnd
  | flowMappingStart
  | flowMappingEnd
  | blockEntry
  | flowEntry
  | key
  | value
  | alias (name : Text)
  | anchor (name : Text)
  | tag (handle : Option Text) (suffix : Text)
  | scalar (plain : Bool) (t : Loose)
deriving DecidableEq, Repr

open Cursor

namespace Token

def isNameChar (c : Char) : Bool := c.isAlphanum || c == '-' || c == '_'

def anchorName (c : Cursor) : Except Fault (Text × Cursor) :=
  let name := c.takeText isNameChar
  let rest := c.dropText isNameChar
  if !name.isEmpty && (rest.atGap || rest.startsWith fun d => "?:,]\x7d%@`".toList.contains d) then
    .ok (name, rest)
  else .error .malformed

def isUriChar (c : Char) : Bool := c.isAlphanum || "-;/?:@&=+$,_.!~*'()[]".toList.contains c

def uriBytes : (bound : Nat) → Cursor → Except Fault (List UInt8 × Cursor)
  | 0, c => .ok ([], c)
  | bound + 1, c =>
    if c.startsWith (· == '%') then
      match texts (c.take 3) with
      | [_, a, b] =>
        match Text.inBase? 16 [a, b] with
        | some n => (uriBytes bound (c.drop 3)).map fun (bs, c) => (UInt8.ofNat n :: bs, c)
        | none => .error .malformed
      | _ => .error .malformed
    else .ok ([], c)

def utf8? (bytes : List UInt8) : Option Text :=
  (String.fromUTF8? ⟨bytes.toArray⟩).map String.toList

def uriText : (bound : Nat) → Cursor → Except Fault (Text × Cursor)
  | 0, c => .ok ([], c)
  | _, [] => .ok ([], [])
  | bound + 1, d :: rest =>
    if d.char = '%' then
      match uriBytes bound (d :: rest) with
      | .error why => .error why
      | .ok (bytes, rest) =>
        match utf8? bytes with
        | none => .error .malformed
        | some t => (uriText bound rest).map fun (more, rest) => (t ++ more, rest)
    else if isUriChar d.char then
      (uriText bound rest).map fun (more, rest) => (d.char :: more, rest)
    else .ok ([], d :: rest)

def uri (c : Cursor) : Except Fault (Text × Cursor) :=
  match uriText (c.length + 1) c with
  | .ok ([], _) => .error .malformed
  | r => r

def tagHandle (c : Cursor) : Except Fault (Text × Cursor) :=
  match c with
  | [] => .error .malformed
  | d :: rest =>
    if d.char ≠ '!' then .error .malformed
    else if Cursor.startsWith rest (· == ' ') then .ok (['!'], rest)
    else
      let name := Cursor.takeText rest isNameChar
      let rest := Cursor.dropText rest isNameChar
      if rest.startsWith (· == '!') then .ok ('!' :: name ++ ['!'], rest.drop 1)
      else .error .malformed

def readTag (c : Cursor) : Except Fault (Token × Cursor) := do
  let (token, rest) ←
    if c.startsWith (· == '<') then do
      let (suffix, rest) ← uri (c.drop 1)
      if rest.startsWith (· == '>') then pure (tag none suffix, rest.drop 1)
      else .error .malformed
    else if c.atGap then pure (tag none ['!'], c)
    else if (c.takeText fun d => !(d == ' ' || isBreak d)).contains '!' then do
      let name := c.takeText isNameChar
      let rest := c.dropText isNameChar
      if rest.startsWith (· == '!') then
        let (suffix, rest) ← uri (rest.drop 1)
        pure (tag (some ('!' :: name ++ ['!'])) suffix, rest)
      else .error .malformed
    else do
      let (suffix, rest) ← uri c
      pure (tag (some ['!']) suffix, rest)
  if Cursor.atSpace rest then pure (token, rest) else .error .malformed

def number (c : Cursor) : Except Fault (Nat × Cursor) :=
  let digits := c.takeText Text.isDigit
  match Text.inBase? 10 digits with
  | none => .error .malformed
  | some n =>
    if 4300 < digits.length then .error .noSuchValue else .ok (n, c.dropText Text.isDigit)

def directive (c : Cursor) : Except Fault (Token × Cursor) := do
  let name := c.takeText isNameChar
  let rest := c.dropText isNameChar
  if name.isEmpty || !rest.atSpace then .error .malformed
  else if name = "YAML".toList then
    let (major, rest) ← number rest.dropSpaces
    if rest.startsWith (· == '.') then
      let (_, rest) ← number (rest.drop 1)
      if rest.atSpace then return (versionDirective major, ← restOfLine rest)
      else .error .malformed
    else .error .malformed
  else if name = "TAG".toList then
    let (handle, rest) ← tagHandle rest.dropSpaces
    if rest.startsWith (· == ' ') then
      let (lead, rest) ← uri rest.dropSpaces
      if rest.atSpace then return (tagDirective handle lead, ← restOfLine rest)
      else .error .malformed
    else .error .malformed
  else return (otherDirective, ← restOfLine (rest.dropText (!isBreak ·)))

end Token

structure PossibleKey where
  position : Nat
  -- Whether nothing but a key can stand there.
  required : Bool
  place : Placed
deriving DecidableEq, Repr

structure Scanner where
  -- The tokens read so far, the last one first.
  tokens : List Token := []
  indents : List Nat := []
  flow : Nat := 0
  allowKey : Bool := true
  -- At most one possible key for each depth of flow collections.
  keys : List (Nat × PossibleKey) := []
deriving Repr

namespace Scanner

def emit (t : Token) (s : Scanner) : Scanner := { s with tokens := t :: s.tokens }

def indent (s : Scanner) : Int := (s.indents.head?.map Int.ofNat).getD (-1)

def unwind (column : Int) (s : Scanner) : Scanner :=
  if 0 < s.flow then s
  else
    let closed := s.indents.takeWhile fun (i : Nat) => decide (column < i)
    { s with
      tokens := closed.map (fun _ => .blockEnd) ++ s.tokens
      indents := s.indents.drop closed.length }

def open? (column : Nat) (s : Scanner) : Option Scanner :=
  if s.indent < column then some { s with indents := column :: s.indents } else none

def openWith (column : Nat) (t : Token) (s : Scanner) : Scanner :=
  match s.open? column with
  | some s => s.emit t
  | none => s

def dropKey (s : Scanner) : Except Fault Scanner :=
  match s.keys.lookup s.flow with
  | none => .ok s
  | some k =>
    if k.required then .error .malformed
    else .ok { s with keys := s.keys.filter fun (level, _) => level != s.flow }

def saveKey (here : Placed) (s : Scanner) : Except Fault Scanner :=
  if s.allowKey then do
    let s ← s.dropKey
    let required := s.flow == 0 && s.indent == here.column
    return { s with keys := (s.flow, ⟨s.tokens.length, required, here⟩) :: s.keys }
  else .ok s

/-- A key ends on the line where it starts, and after 1024 characters at most. -/
def isStale (here : Placed) (k : PossibleKey) : Bool :=
  k.place.line != here.line || 1024 < here.index - k.place.index

def dropStale (here : Placed) (s : Scanner) : Except Fault Scanner :=
  if s.keys.any fun (_, k) => isStale here k && k.required then .error .malformed
  else .ok { s with keys := s.keys.filter fun (_, k) => !isStale here k }

def insertAt (position : Nat) (ts : List Token) (s : Scanner) : Scanner :=
  let later := s.tokens.length - position
  { s with tokens := s.tokens.take later ++ ts.reverse ++ s.tokens.drop later }

def forbidKey (s : Scanner) : Scanner := { s with allowKey := false }

def value (here : Placed) (s : Scanner) : Except Fault Scanner :=
  match s.keys.lookup s.flow with
  | some k =>
    let s := { s with keys := s.keys.filter (fun (level, _) => level != s.flow), allowKey := false }
    match if s.flow = 0 then s.open? k.place.column else none with
    | some s => .ok ((s.insertAt k.position [.blockMappingStart, .key]).emit .value)
    | none => .ok ((s.insertAt k.position [.key]).emit .value)
  | none =>
    if s.flow = 0 then
      if s.allowKey then
        .ok (((s.openWith here.column .blockMappingStart).emit .value))
      else .error .malformed
    else (dropKey { s with allowKey := false }).map (emit .value)

def entry (here : Placed) (start mark : Token) (s : Scanner) : Except Fault Scanner :=
  if s.flow = 0 then
    if s.allowKey then (s.openWith here.column start).dropKey.map (emit mark)
    else .error .malformed
  else
    (dropKey { s with allowKey := mark = .blockEntry }).map (emit mark)

def openFlow (here : Placed) (t : Token) (s : Scanner) : Except Fault Scanner := do
  let s ← s.saveKey here
  return { s with flow := s.flow + 1, allowKey := true }.emit t

def closeFlow (t : Token) (s : Scanner) : Except Fault Scanner :=
  if s.flow = 0 then .error .malformed
  else do
    let s ← s.dropKey
    return { s with flow := s.flow - 1, allowKey := false }.emit t

def document (t : Token) (s : Scanner) : Except Fault Scanner := do
  let s ← (s.unwind (-1)).dropKey
  return s.forbidKey.emit t

def startsPlain (flow : Bool) (c : Char) (rest : Cursor) : Bool :=
  !(isGap c || "-?:,[]\x7b\x7d#&*!|>'\"%@`".toList.contains c)
    || (!rest.atGap && (c == '-' || (!flow && (c == '?' || c == ':'))))

def step (s : Scanner) (here : Placed) (rest : Cursor) : Except Fault (Scanner × Cursor) :=
  let c := here.char
  let flow := decide (0 < s.flow)
  if c = '%' ∧ here.column = 0 then do
    let s ← (s.unwind (-1)).dropKey
    let (t, rest) ← Token.directive rest
    return (s.forbidKey.emit t, rest)
  else if here.column = 0 ∧ Cursor.atMarker '-' (here :: rest) then
    (s.document .documentStart).map (·, rest.drop 2)
  else if here.column = 0 ∧ Cursor.atMarker '.' (here :: rest) then
    (s.document .documentEnd).map (·, rest.drop 2)
  else if c = '[' then (s.openFlow here .flowSequenceStart).map (·, rest)
  else if c = '\x7b' then (s.openFlow here .flowMappingStart).map (·, rest)
  else if c = ']' then (s.closeFlow .flowSequenceEnd).map (·, rest)
  else if c = '\x7d' then (s.closeFlow .flowMappingEnd).map (·, rest)
  else if c = ',' then
    (dropKey { s with allowKey := true }).map fun s => (s.emit .flowEntry, rest)
  else if c = '-' ∧ rest.atGap then
    (s.entry here .blockSequenceStart .blockEntry).map (·, rest)
  else if c = '?' ∧ (flow ∨ rest.atGap) then
    (s.entry here .blockMappingStart .key).map (·, rest)
  else if c = ':' ∧ (flow ∨ rest.atGap) then (s.value here).map (·, rest)
  else if c = '*' ∨ c = '&' then do
    let s ← s.saveKey here
    let (name, rest) ← Token.anchorName rest
    return (s.forbidKey.emit (if c = '*' then .alias name else .anchor name), rest)
  else if c = '!' then do
    let s ← s.saveKey here
    let (t, rest) ← Token.readTag rest
    return (s.forbidKey.emit t, rest)
  else if (c = '|' ∨ c = '>') ∧ !flow then do
    let s ← s.dropKey
    let (t, rest) ← Block.read (c = '>') s.indent rest
    return ({ s with allowKey := true }.emit (.scalar false (.ofText t)), rest)
  else if c = '\'' ∨ c = '"' then do
    let s ← s.saveKey here
    let (t, rest) ← Quoted.read c (rest.length + 1) rest
    return (s.forbidKey.emit (.scalar false t), rest)
  else if startsPlain flow c rest then do
    let s ← s.saveKey here
    let (t, newline, rest) := Plain.read flow s.indent (here :: rest)
    return ({ s with allowKey := newline }.emit (.scalar true (.ofText t)), rest)
  else .error .malformed

def skip (flow comment allowKey : Bool) : Cursor → Bool × Cursor
  | [] => (allowKey, [])
  | d :: rest =>
    if isBreak d.char then skip flow false (allowKey || !flow) rest
    else if comment then skip flow true allowKey rest
    else if d.char = ' ' then skip flow false allowKey rest
    else if d.char = '#' then skip flow true allowKey rest
    else (allowKey, d :: rest)

def settled (s : Scanner) : Nat := s.keys.foldl (fun n (_, k) => min n k.position) s.tokens.length

def conclude (finish : Placed) (s : Scanner) : Except Fault Scanner := do
  let s ← s.dropStale finish
  (s.unwind (-1)).dropKey

end Scanner

structure Tokens where
  ready : List Token
  -- Why the tokens do not reach to the end of the text.
  fault : Option Fault := none
deriving Repr

namespace Scanner

def stop (s : Scanner) (count : Nat) (why : Fault) : Tokens :=
  ⟨s.tokens.reverse.take count, some why⟩

/-- Reads tokens to the end of the text. Tokens are settled when the next one is read and possible
    keys that are stale are given up. -/
def run (finish : Placed) : (bound : Nat) → Scanner → Cursor → Tokens
  | 0, s, _ => s.stop s.settled .malformed
  | bound + 1, s, c =>
    match skip (0 < s.flow) false s.allowKey c with
    | (_, []) =>
      match s.conclude finish with
      | .error why => s.stop s.settled why
      | .ok done => ⟨done.tokens.reverse, none⟩
    | (allowKey, here :: rest) =>
      match dropStale here { s with allowKey } with
      | .error why => s.stop s.settled why
      | .ok kept =>
        match (kept.unwind here.column).step here rest with
        | .error why => s.stop s.settled why
        | .ok (next, rest) =>
          match next.dropStale (rest.head?.getD finish) with
          | .error why => s.stop s.settled why
          | .ok next => run finish bound next rest

end Scanner

namespace Tokens

def ofAdmitted (t : Text) : Tokens :=
  let c := placeAll t
  Scanner.run c.finish (c.length + 1) {} (if c.startsWith (· == byteOrderMark) then c.drop 1 else c)

/-- Where the portion starts in which a character is looked at. The first one is twice as long as
    the others. -/
def portion (index : Nat) : Nat := if index < 8192 then 0 else index / 4096 * 4096

def ofText (t : Text) : Tokens :=
  let t := unifyLines t
  match t.findIdx? fun c => !isAdmitted c with
  | none => ofAdmitted t
  | some index =>
    let before := ofAdmitted (t.take (portion index))
    match before.fault with
    | none | some .malformed => ⟨[], some .malformed⟩
    | some _ => before

end Tokens

end DocTag.Yaml
