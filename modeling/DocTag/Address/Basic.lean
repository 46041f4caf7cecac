import DocTag.Address.Host
import DocTag.Address.Literal

/-!
The syntax of e-mail addresses. The part before the sign is a sequence of atoms between dots or a
quoted text, the part after it a host name or an internet address in square brackets. Characters
beyond ASCII may stand on both sides.
-/

namespace DocTag.Address

def keepsFirst : Text → Bool
  | [] => true
  | [c] => Text.compose [c] == [c]
  | c :: d :: rest =>
    if c.toNat < 0x80 && d.toNat < 0x80 then true
    else (Text.compose (c :: d :: rest)).head? == some c

/-- Cuts a text in front of the first `@` or `<` that is not quoted. Within quotes, a backslash
    takes the next character out of consideration; a character that is composed with what follows
    it is never considered. -/
def cut (quoted escaped : Bool) : Text → Text × Text
  | [] => ([], [])
  | c :: rest =>
    let keep (quoted escaped : Bool) : Text × Text :=
      let (before, after) := cut quoted escaped rest
      (c :: before, after)
    if !keepsFirst (c :: rest) then keep quoted escaped
    else if quoted then
      if c = '\\' ∧ !escaped then keep true true
      else if c = '"' ∧ !escaped then keep false false
      else keep true false
    else if c = '"' then keep true escaped
    else if c = '@' ∨ c = '<' then ([], c :: rest)
    else keep false escaped

structure LocalPart where
  quoted : Bool
  content : Text
deriving DecidableEq, Repr

def unquote? : Text → Option Text
  | [] => some []
  | '\\' :: c :: rest => (unquote? rest).map (c :: ·)
  | c :: rest =>
    if c = '\\' then some []
    else if c = '"' then if rest.isEmpty then some [] else none
    else (unquote? rest).map (c :: ·)

def LocalPart.ofText? : Text → Option LocalPart
  | '"' :: rest => (unquote? rest).map fun t => ⟨true, t⟩
  | t => some ⟨false, t⟩

def isAtomChar (c : Char) : Bool :=
  c.isAlphanum || "_!#$%&'*+-/=?^`\x7b|\x7d~".toList.contains c

def isDotAtom (p : Char → Bool) (t : Text) : Bool :=
  (t.splitOn '.').all fun atom => !atom.isEmpty && atom.all p

def isQuotedChar (c : Char) : Bool := 0x20 ≤ c.toNat && c.toNat ≠ 0x7F

def isSoundQuoted (t : Text) : Bool :=
  t.all (fun c => isGraphic c || isSpace c) && !Label.startsWithMark t

def quoted (t : Text) : Text :=
  '"' :: t.flatMap (fun c => if c = '"' ∨ c = '\\' then ['\\', c] else [c]) ++ ['"']

def LocalPart.form? (p : LocalPart) : Option Text :=
  if p.content.isEmpty then none
  else if isDotAtom isAtomChar p.content then some p.content
  else if isDotAtom (fun c => isAtomChar c || 0x80 ≤ c.toNat) p.content then
    if Host.isSound p.content then some p.content else none
  else if p.quoted && p.content.all isQuotedChar && isSoundQuoted p.content then
    some (Address.quoted p.content)
  else none

def LocalPart.composed? (p : LocalPart) : Option Text :=
  match p.form? with
  | none => none
  | some t => if t.compose = t then some t else LocalPart.form? ⟨p.quoted, t.compose⟩

def domain? (t : Text) : Option (Text × Text) :=
  match t, t.getLast? with
  | '[' :: rest, some ']' => (Literal.read? rest.dropLast).map fun shown => (shown, shown)
  | _, _ => Host.forms? t

def fits (t : Text) : Bool := t.byteCount ≤ 254

def isValid (address : Text) : Bool :=
  match cut false false address with
  | (before, '@' :: after) =>
    match LocalPart.ofText? before with
    | none => false
    | some p =>
      match p.composed?, domain? after with
      | some name, some (ascii, shown) =>
        let written := if p.quoted then '"' :: p.content ++ ['"'] else p.content
        fits (written ++ '@' :: after) && fits (name ++ '@' :: shown)
          && fits (name ++ '@' :: ascii)
      | _, _ => false
  | _ => false

end DocTag.Address
