import DocTag.Tag.Author
import DocTag.Tag.Method

/-!
Tag lines, and the table of recognisers that they are handed to. A line that no recogniser takes
becomes a generic tag.
-/

namespace DocTag

def isTagNameChar (c : Char) : Bool := isWord c || c == '\\' || c == ':' || c == '-'

structure TagLine where
  name : Text
  body : Text
deriving DecidableEq, Repr

def TagLine.ofText? (line : Text) : Option TagLine :=
  let t := (Text.dropMark ['@'] line.trim).2
  match t.takeWhile isTagNameChar with
  | [] => none
  | name =>
    match t.dropWhile isTagNameChar with
    | [] => some ⟨name, []⟩
    | c :: rest => if isBlank c then some ⟨name, Text.trim rest⟩ else none

abbrev Recogniser := Scope → Text → Reading Tag

def Kind.recogniser (valid : Text → Bool) : Kind → Recogniser
  | .method => fun s body => (Method.recognise {} s (some body)).map .method
  | .param => fun s body => (Parameter.recognise {} s (some body)).map .param
  | .author => fun _ body => (Author.read valid body).map .author

structure Registry where
  entries : List (Text × Recogniser)

namespace Registry

def builtin (valid : Text → Bool) : Registry :=
  ⟨[Kind.method, .param, .author].map fun k => (k.name, k.recogniser valid)⟩

def register (r : Registry) (name : Text) (recogniser : Recogniser) : Registry :=
  ⟨(name, recogniser) :: r.entries⟩

def find? (r : Registry) (name : Text) : Option Recogniser := r.entries.lookup name

def recognises (r : Registry) (name : Text) : Bool := (r.find? name).isSome

@[simp] theorem find?_register_self (r : Registry) (name : Text) (f : Recogniser) :
    (r.register name f).find? name = some f := by
  simp [find?, register]

theorem find?_register_of_ne (r : Registry) {name other : Text} (f : Recogniser)
    (h : other ≠ name) : (r.register name f).find? other = r.find? other := by
  have : (other == name) = false := by simpa using h
  simp [find?, register, List.lookup_cons, this]

def reading (r : Registry) (s : Scope) (line : TagLine) : Reading Tag :=
  match r.find? line.name, line.body with
  | some recogniser, c :: rest => recogniser s (c :: rest)
  | _, _ => .missed .unexplained

def create (r : Registry) (s : Scope) (line : Text) : Except Fault Tag :=
  match TagLine.ofText? line with
  | none => .error (.tagLine line)
  | some l =>
    match r.reading s l with
    | .found tag => .ok tag
    | .missed _ => .ok (.generic l.name (some l.body.dedent))
    | .refused why => .error why

def records (r : Registry) (s : Scope) (line : Text) : List Record :=
  match TagLine.ofText? line with
  | none => []
  | some l =>
    match r.reading s l with
    | .missed why =>
      why.records ++ [⟨.line, .debug, "Falling back to a generic tag for @".toList ++ l.name⟩]
    | _ => []

end Registry

end DocTag
