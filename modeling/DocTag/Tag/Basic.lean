import DocTag.Reading
import DocTag.Ty.Read

namespace DocTag

def trailing : Option Text → Text
  | none | some [] => []
  | some d => ' ' :: d

structure Parameter where
  name : Text
  type : Ty := .mixed
  byReference : Bool := false
  variadic : Bool := false
  description : Option Text := none
deriving DecidableEq, Repr

namespace Parameter

def signature (p : Parameter) : Text :=
  p.type.render ++ ' ' :: (if p.byReference then ['&'] else [])
    ++ (if p.variadic then ['.', '.', '.'] else []) ++ '$' :: p.name

def render (p : Parameter) : Text := p.signature ++ trailing p.description

end Parameter

structure Method where
  name : Text
  returns : Ty := .void
  isStatic : Bool := false
  description : Option Text := none
  parameters : List Parameter := []
  name_ne_nil : name ≠ [] := by decide
deriving DecidableEq, Repr

namespace Method

/-- What stands in front of the arguments. Parts that are written as nothing leave no blank. -/
def head (m : Method) : Text :=
  [' '].intercalate (List.filter (fun part : Text => !part.isEmpty)
    [if m.isStatic then "static".toList else [], m.returns.render, m.name])

def render (m : Method) : Text :=
  m.head ++ '(' :: [',', ' '].intercalate (m.parameters.map Parameter.signature)
    ++ ')' :: trailing m.description

def arguments (m : Method) : List (Text × Ty) := m.parameters.map fun p => (p.name, p.type)

end Method

structure Author where
  name : Text
  email : Text := []
deriving DecidableEq, Repr

def Author.render (a : Author) : Text := a.name ++ '<' :: a.email ++ ['>']

inductive Tag where
  | method (m : Method)
  | param (p : Parameter)
  | author (a : Author)
  | generic (name : Text) (description : Option Text)
deriving DecidableEq, Repr

namespace Tag

def name : Tag → Text
  | method _ => Kind.method.name
  | param _ => Kind.param.name
  | author _ => Kind.author.name
  | generic name _ => name

def description : Tag → Option Text
  | method m => m.description
  | param p => p.description
  | author _ => none
  | generic _ description => description

def body : Tag → Text
  | method m => m.render
  | param p => p.render
  | author a => a.render
  | generic _ description => description.getD []

def line (t : Tag) : Text :=
  match t.body with
  | [] => '@' :: t.name
  | body => '@' :: t.name ++ ' ' :: body

end Tag

end DocTag
