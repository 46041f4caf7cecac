import DocTag.Json.Basic
import DocTag.Tag.Basic

namespace DocTag

abbrev Members := List (Text × Json)

def described (description : Option Text) : Text × Json :=
  ("description".toList, .text (description.getD []))

def Parameter.members (p : Parameter) : Members :=
  [("variable_name".toList, .text p.name),
    ("type".toList, .text p.type.render),
    ("is_reference".toList, .bool p.byReference),
    ("is_variadic".toList, .bool p.variadic),
    described p.description]

def Method.argumentMembers (argument : Text × Ty) : Members :=
  [("name".toList, .text argument.1), ("type".toList, .text argument.2.render)]

def Method.members (m : Method) : Members :=
  [("method_name".toList, .text m.name),
    ("is_static".toList, .bool m.isStatic),
    ("return_type".toList, .text m.returns.render),
    ("parameters".toList, .list (m.parameters.map fun p => .object p.members)),
    ("arguments".toList, .list (m.arguments.map fun a => .object (argumentMembers a))),
    described m.description]

def Author.members (a : Author) : Members :=
  [("author_name".toList, .text a.name), ("author_email".toList, .text a.email), described none]

def recognized (b : Bool) : Text × Json := ("recognized".toList, .bool b)

namespace Tag

def isRecognized : Tag → Bool
  | generic _ _ => false
  | _ => true

def fields : Tag → Members
  | method m => m.members
  | param p => p.members
  | author a => a.members
  | generic _ description => [described description]

def members (t : Tag) : Members :=
  recognized t.isRecognized :: ("name".toList, .text t.name) :: t.fields
    ++ [("rendered".toList, .text t.body)]

end Tag

def Fault.payload (why : Fault) : Json := .object [("error".toList, .text why.message)]

def Reading.payload : Reading Tag → Json
  | found tag => .object tag.members
  | missed _ => .object [recognized false]
  | refused why => why.payload

def Tag.linePayload : Except Fault Tag → Json
  | .ok tag => .object (tag.members ++ [("tag_line".toList, .text tag.line)])
  | .error why => why.payload

end DocTag
