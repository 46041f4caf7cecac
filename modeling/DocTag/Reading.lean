import DocTag.Fault

namespace DocTag

inductive Origin where
  | parameter
  | method
  | author
  | line
  | server
deriving DecidableEq, Repr

inductive Level where
  | debug
  | info
deriving DecidableEq, Repr

structure Record where
  origin : Origin
  level : Level
  message : Text
deriving DecidableEq, Repr

inductive Miss where
  -- No recogniser had its say, or the one that had gave no reason.
  | unexplained
  | noVariable (fragment : Text)
  | notMethod (body : Text)
  | notAuthor (body : Text)
  | badArgument (argument method : Text) (why : Miss)
deriving DecidableEq, Repr

def Miss.records : Miss → List Record
  | unexplained => []
  | noVariable fragment =>
    [⟨.parameter, .debug, "No variable name in parameter fragment ".toList ++ fragment.quote⟩]
  | notMethod body =>
    [⟨.method, .debug, "Body does not match the method grammar: ".toList ++ body.quote⟩]
  | notAuthor body =>
    [⟨.author, .debug, "Body does not match the author grammar: ".toList ++ body.quote⟩]
  | badArgument argument method why =>
    why.records ++ [⟨.method, .debug, "Argument ".toList ++ argument.quote ++ " of method ".toList
      ++ method ++ " is not a parameter".toList⟩]

inductive Reading (α : Type) where
  | found (value : α)
  | missed (why : Miss)
  | refused (why : Fault)
deriving DecidableEq, Repr

namespace Reading

def map (f : α → β) : Reading α → Reading β
  | found a => found (f a)
  | missed why => missed why
  | refused why => refused why

@[simp] theorem map_found (f : α → β) (a : α) : (found a).map f = found (f a) := rfl

@[simp] theorem map_missed (f : α → β) (why : Miss) : (missed why).map f = missed why := rfl

@[simp] theorem map_refused (f : α → β) (why : Fault) : (refused why).map f = refused why := rfl

def records : Reading α → List Record
  | missed why => why.records
  | _ => []

end Reading

end DocTag
