import DocTag.Tag.Recogniser
import DocTag.Text.Word

namespace DocTag.Parameter

structure Variable where
  byReference : Bool
  variadic : Bool
  name : Text
  rest : Text
deriving DecidableEq, Repr

def ellipsis : Text := ['.', '.', '.']

def Variable.read? (t : Text) : Option Variable :=
  let (byReference, t) := Text.dropMark ['&'] t
  let (variadic, t) := Text.dropMark ellipsis t
  match t with
  | '$' :: t =>
    match t.takeWhile isWord with
    | [] => none
    | name => some ⟨byReference, variadic, name, t.dropWhile isWord⟩
  | _ => none

def startsVariable (t : Text) : Bool :=
  match (Text.dropMark ellipsis (Text.dropMark ['&'] t).2).2 with
  | '$' :: _ => true
  | _ => false

def readType (s : Scope) (t : Text) : Except Fault (Ty × Text) :=
  let word := t.takeWhile (!isBlank ·)
  if startsVariable word then .ok (.mixed, t)
  else
    match Ty.resolve s word with
    | .ok type => .ok (type, Text.trimStart (t.dropWhile (!isBlank ·)))
    | .error why => .error why

def readMarked (s : Scope) (leading : Bool) (t : Text) : Reading Parameter :=
  match t with
  | [] => .missed .unexplained
  | _ =>
    match readType s t with
    | .error why => .refused why
    | .ok (type, t) =>
      match Variable.read? t with
      | none => .missed (.noVariable t)
      | some v =>
        .found
          { name := v.name
            type
            byReference := v.byReference
            variadic := leading || v.variadic
            description := some v.rest.dedent }

def read (s : Scope) (fragment : Text) : Reading Parameter :=
  match ellipsis.isPrefixOf? fragment.trim with
  | some rest => readMarked s true (Text.trimStart rest)
  | none => readMarked s false fragment.trim

def recognise (e : Equipment) (s : Scope) (body : Option Text) : Reading Parameter :=
  e.reading .param body (read s)

end DocTag.Parameter
