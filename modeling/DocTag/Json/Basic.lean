import DocTag.Text.Loose
import DocTag.Text.Quoted

namespace DocTag

inductive Json where
  | null
  | bool (b : Bool)
  | number (literal : Text)
  | text (t : Text)
  -- A string with halves of characters in it.
  | garbled (t : Loose)
  | list (items : List Json)
  | object (members : List (Text × Json))
  -- An object with halves of characters in some of its keys.
  | mixed (keys : List Loose) (values : List Json)
deriving Repr, Inhabited

namespace Json

def writeUnit (n : Nat) : Text := '\\' :: 'u' :: Text.hex 4 n

def writeChar (c : Char) : Text :=
  if c = '"' then ['\\', '"']
  else if c = '\\' then ['\\', '\\']
  else if c = '\n' then ['\\', 'n']
  else if c = '\r' then ['\\', 'r']
  else if c = '\t' then ['\\', 't']
  else if c = '\x0c' then ['\\', 'f']
  else if c = '\x08' then ['\\', 'b']
  else if 0x20 ≤ c.toNat ∧ c.toNat < 0x7F then [c]
  else if c.toNat < 0x10000 then writeUnit c.toNat
  else
    writeUnit (0xD800 + (c.toNat - 0x10000) / 0x400)
      ++ writeUnit (0xDC00 + (c.toNat - 0x10000) % 0x400)

def writeText (t : Text) : Text := '"' :: t.flatMap writeChar ++ ['"']

mutual

def write : Json → Text
  | null => "null".toList
  | bool true => "true".toList
  | bool false => "false".toList
  | number literal => literal
  | text t => writeText t
  | garbled t => writeText t.shown
  | list items => '[' :: [',', ' '].intercalate (writeItems items) ++ [']']
  | object members => '\x7b' :: [',', ' '].intercalate (writeMembers members) ++ ['\x7d']
  | mixed keys values =>
    let members := (keys.zip (writeItems values)).map fun (key, value) =>
      writeText key.shown ++ ':' :: ' ' :: value
    '\x7b' :: [',', ' '].intercalate members ++ ['\x7d']

def writeItems : List Json → List Text
  | [] => []
  | item :: items => item.write :: writeItems items

def writeMembers : List (Text × Json) → List Text
  | [] => []
  | (key, value) :: members => (writeText key ++ ':' :: ' ' :: value.write) :: writeMembers members

end

def get? (key : Text) : Json → Option Json
  | object members => members.reverse.lookup key
  | mixed keys values => (keys.zip values).reverse.lookup (Loose.ofText key)
  | _ => none

def text? : Json → Option Text
  | text t => some t
  | _ => none

def ofOption : Option Text → Json
  | none => null
  | some t => text t

end Json

end DocTag
