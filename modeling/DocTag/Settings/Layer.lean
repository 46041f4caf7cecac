import DocTag.Json.Read
import DocTag.Settings.Basic
import DocTag.Yaml.Value

namespace DocTag

-- A number is a whole one or one of double precision, as it is written.
def Datum.ofLiteral (literal : Text) : Datum :=
  let (negative, digits) := Double.sign literal
  match Text.inBase? 10 digits with
  | some n => .int (if negative then -(n : Int) else n)
  | none => .real ((Double.ofText? literal).getD .undefined)

mutual

def Datum.ofJson : Json → Datum
  | .null => .null
  | .bool b => .bool b
  | .number literal => .ofLiteral literal
  | .text t => .text t
  | .garbled t => .garbled t
  | .list items => .list (Datum.ofJsonAll items)
  | .object members => .mapping (Datum.putAll (Datum.ofJsonMembers members) [])
  | .mixed keys values =>
    .mapping (Datum.putAll ((keys.map Datum.ofLoose).zip (Datum.ofJsonAll values)) [])

def Datum.ofJsonAll : List Json → List Datum
  | [] => []
  | j :: js => Datum.ofJson j :: Datum.ofJsonAll js

def Datum.ofJsonMembers : List (Text × Json) → List (Datum × Datum)
  | [] => []
  | (key, value) :: rest => (.text key, Datum.ofJson value) :: Datum.ofJsonMembers rest

end

-- Whether a key has letters of either case, or could have them.
def Datum.hasCase : Datum → Bool
  | .text _ | .garbled _ | .bytes _ => true
  | _ => false

def Datum.isBytes : Datum → Bool
  | .bytes _ => true
  | _ => false

namespace Settings

inductive LoadFault (P : Type) where
  | path (why : PathFault)
  | file (why : Yaml.Fault)
  -- the file holds entries that are no pairs of a key and a value
  | entryLength
  -- the file holds no entries at all, or one under what cannot be a key
  | noEntries
  -- the file has a key without letter case
  | caselessKey
  -- the file has a key that is bytes and not text
  | byteKey
  -- a variable of the environment should be JSON and is not
  | environment
  | invalid (problems : List P)
deriving Repr

namespace Layer

def isNamed (name : Text) : Datum → Bool
  | .text key => key.lower == name
  | _ => false

-- A name counts in any letter case, and its first value is taken.
def pick (name : Text) (pairs : List (Datum × Datum)) : Option Datum :=
  (pairs.find? fun (key, _) => isNamed name key).map Prod.snd

def ofPairs (pairs : List (Datum × Datum)) : Layer := fun f => pick f.name pairs

def atop (high low : Layer) : Layer := fun f =>
  match high f, low f with
  | some h, some l => some (h.atop l)
  | some h, none => some h
  | none, l => l

end Layer

section Environment

variable {P : Type} (lead : Text) (env : List (Text × Text))

def fieldText? (f : Field) : Option Text :=
  (env.reverse.find? fun v => v.1.lower == (lead ++ f.name).lower).map Prod.snd

-- The aliases are written in JSON, in which null gives none.
def valueOf (f : Field) : Except (LoadFault P) (Option Datum) :=
  match fieldText? lead env f with
  | none => .ok none
  | some t =>
    if f = .aliases then
      match Json.read? t with
      | none => .error .environment
      | some .null => .ok none
      | some j => if j.isModest then .ok (some (.ofJson j)) else .error .environment
    else .ok (some (.text t))

def Layer.ofVariables : Except (LoadFault P) Layer := do
  let configFile ← valueOf lead env .configFile
  let ns ← valueOf lead env .ns
  let aliases ← valueOf lead env .aliases
  let logLevel ← valueOf lead env .logLevel
  return fun
    | .configFile => configFile
    | .ns => ns
    | .aliases => aliases
    | .logLevel => logLevel

end Environment

section Files

variable {P : Type}

def entryAt (key value : Datum) : Except (LoadFault P) (Datum × Datum) :=
  if key.isKey then .ok (key, value) else .error .noEntries

-- The entry that a member of a list makes: its two parts.
def entryOf : Datum → Except (LoadFault P) (Datum × Datum)
  | .text [a, b] => .ok (.text [a], .text [b])
  | .garbled [a, b] => .ok (.ofLoose [a], .ofLoose [b])
  | .list [k, v] | .pair k v => entryAt k v
  | .mapping [(k, _), (v, _)] => .ok (k, v)
  | .set [k, v] => .ok (k, v)
  | .bytes [a, b] => .ok (.int a.toNat, .int b.toNat)
  | .text _ | .garbled _ | .list _ | .mapping _ | .set _ | .bytes _ => .error .entryLength
  | _ => .error .noEntries

/-- The entries of a file. Besides a mapping, a list of pairs has entries, and a value that counts
    as missing has none. -/
def entries (d : Datum) : Except (LoadFault P) (List (Datum × Datum)) :=
  if !d.isGiven then .ok []
  else
    match d with
    | .mapping pairs => .ok pairs
    | .list items | .set items => items.mapM entryOf
    | .text _ | .garbled _ => .error .entryLength
    | _ => .error .noEntries

namespace World

-- A file that does not exist has no entries.
def entriesOf (w : World) (path : Text) : Except (LoadFault P) (List (Datum × Datum)) :=
  match w.textOf? path with
  | .error why => .error (.path why)
  | .ok none => .ok []
  | .ok (some t) =>
    match Yaml.read t with
    | .error why => .error (.file why)
    | .ok d => entries d

def entriesNamed (w : World) : Datum → Except (LoadFault P) (List (Datum × Datum))
  | .text t =>
    match w.expand t with
    | .error why => .error (.path why)
    | .ok path => w.entriesOf path
  | _ => .error (.path .notPath)

def entriesNamedAll (w : World) (d : Datum) : Except (LoadFault P) (List (Datum × Datum)) := do
  let pairs := Datum.putAll (← d.parts.mapM w.entriesNamed).flatten []
  if pairs.all fun (key, _) => key.hasCase then .ok pairs else .error .caselessKey

end World

def Layer.ofEntries (pairs : List (Datum × Datum)) : Except (LoadFault P) Layer :=
  if pairs.any fun (key, _) => key.isBytes then .error .byteKey else .ok (ofPairs pairs)

end Files

end Settings

end DocTag
