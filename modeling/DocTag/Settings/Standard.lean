import DocTag.Settings.Layer

namespace DocTag.Settings

inductive Expected where
  | text
  | spelling
  | mapping
  | path
deriving DecidableEq, Repr

structure Problem where
  place : List Text
  expected : Expected
deriving DecidableEq, Repr

abbrev Fault := LoadFault Problem

def textOf : Datum → Except (List Problem) Text
  | .text t => .ok t
  | .bytes bs =>
    match Yaml.Token.utf8? bs with
    | some t => .ok t
    | none => .error [⟨[], .spelling⟩]
  | .garbled _ => .error [⟨[], .spelling⟩]
  | _ => .error [⟨[], .text⟩]

def pathOf : Datum → Except (List Problem) (Option Text)
  | .null => .ok none
  | .text t => .ok (some (normalPath t))
  | _ => .error [⟨[], .path⟩]

def problemsAt (place : List Text) : Except (List Problem) α → List Problem
  | .ok _ => []
  | .error ps => ps.map fun p => { p with place := place ++ p.place }

def entryProblems (e : Datum × Datum) : List Problem :=
  problemsAt [e.1.keyName, "[key]".toList] (textOf e.1) ++ problemsAt [e.1.keyName] (textOf e.2)

def plainText (d : Datum) : Text := (textOf d).toOption.getD []

-- Keys that spell the same are one, and the last value counts.
def textsOf : Datum → Except (List Problem) (List (Text × Text))
  | .mapping pairs =>
    match pairs.flatMap entryProblems with
    | [] => .ok (assignAll (pairs.map fun (key, value) => (plainText key, plainText value)))
    | ps => .error ps
  | _ => .error [⟨[], .mapping⟩]

def standard (folder : Text → Place → Except Fault Text) : Support (List Problem) Fault where
  caller := Layer.ofPairs
  environment := Layer.ofVariables
  folder
  entries w := w.entriesNamedAll
  fields := Layer.ofEntries
  merge := Layer.atop
  text := textOf
  path := pathOf
  texts := textsOf
  invalid problems := .invalid <| problems.flatMap fun (f, ps) =>
    ps.map fun p => { p with place := f.name :: p.place }

end DocTag.Settings
