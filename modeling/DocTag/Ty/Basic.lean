import DocTag.Scope

namespace DocTag

inductive Keyword where
  | array | bool | callable | false | float | int | iterable | mixed | never | null | object
  | parent | resource | self | static | string | true | void
deriving DecidableEq, Repr

namespace Keyword

def name : Keyword → Text
  | array => "array".toList
  | bool => "bool".toList
  | callable => "callable".toList
  | .false => "false".toList
  | float => "float".toList
  | int => "int".toList
  | iterable => "iterable".toList
  | mixed => "mixed".toList
  | never => "never".toList
  | null => "null".toList
  | object => "object".toList
  | parent => "parent".toList
  | resource => "resource".toList
  | self => "self".toList
  | static => "static".toList
  | string => "string".toList
  | .true => "true".toList
  | void => "void".toList

def all : List Keyword :=
  [array, bool, callable, .false, float, int, iterable, mixed, never, null, object, parent,
    resource, self, static, string, .true, void]

def spellings : List (Text × Keyword) :=
  ("integer".toList, int) :: ("boolean".toList, bool) :: ("double".toList, float)
    :: all.map fun k => (k.name, k)

def ofText? (t : Text) : Option Keyword := spellings.lookup t.lower

end Keyword

/-- A type. The name in `object` is the class as written, or its full name once qualified. -/
inductive Ty where
  | keyword (k : Keyword)
  | this
  | object (name : Text)
  | array (of : Ty)
  | nullable (of : Ty)
  | compound (members : List Ty)
deriving Repr

namespace Ty

mutual

def decEq : (t u : Ty) → Decidable (t = u)
  | .keyword k, .keyword l =>
    if h : k = l then isTrue (by rw [h]) else isFalse (fun e => h (by cases e; rfl))
  | .this, .this => isTrue rfl
  | .object a, .object b =>
    if h : a = b then isTrue (by rw [h]) else isFalse (fun e => h (by cases e; rfl))
  | .array t, .array u =>
    match decEq t u with
    | isTrue h => isTrue (by rw [h])
    | isFalse h => isFalse (fun e => h (by cases e; rfl))
  | .nullable t, .nullable u =>
    match decEq t u with
    | isTrue h => isTrue (by rw [h])
    | isFalse h => isFalse (fun e => h (by cases e; rfl))
  | .compound ts, .compound us =>
    match decEqAll ts us with
    | isTrue h => isTrue (by rw [h])
    | isFalse h => isFalse (fun e => h (by cases e; rfl))
  | .keyword _, .this | .keyword _, .object _ | .keyword _, .array _ | .keyword _, .nullable _
  | .keyword _, .compound _ | .this, .keyword _ | .this, .object _ | .this, .array _
  | .this, .nullable _ | .this, .compound _ | .object _, .keyword _ | .object _, .this
  | .object _, .array _ | .object _, .nullable _ | .object _, .compound _ | .array _, .keyword _
  | .array _, .this | .array _, .object _ | .array _, .nullable _ | .array _, .compound _
  | .nullable _, .keyword _ | .nullable _, .this | .nullable _, .object _ | .nullable _, .array _
  | .nullable _, .compound _ | .compound _, .keyword _ | .compound _, .this
  | .compound _, .object _ | .compound _, .array _ | .compound _, .nullable _ =>
    isFalse (fun e => by cases e)

def decEqAll : (ts us : List Ty) → Decidable (ts = us)
  | [], [] => isTrue rfl
  | [], _ :: _ => isFalse (fun e => by cases e)
  | _ :: _, [] => isFalse (fun e => by cases e)
  | t :: ts, u :: us =>
    match decEq t u with
    | isFalse h => isFalse (fun e => h (by cases e; rfl))
    | isTrue h =>
      match decEqAll ts us with
      | isTrue hs => isTrue (by rw [h, hs])
      | isFalse hs => isFalse (fun e => hs (by cases e; rfl))

end

instance : DecidableEq Ty := decEq

def isCompound : Ty → Bool
  | .compound _ => Bool.true
  | _ => Bool.false

mutual

/-- The written form. Only a union of which an array is taken is put in parentheses. -/
def render : Ty → Text
  | .keyword k => k.name
  | .this => "$this".toList
  | .object name => name
  | .array of =>
    if of.isCompound then '(' :: of.render ++ [')', '[', ']'] else of.render ++ ['[', ']']
  | .nullable of => '?' :: of.render
  | .compound members => ['|'].intercalate (renderAll members)

def renderAll : List Ty → List Text
  | [] => []
  | t :: ts => t.render :: renderAll ts

end

@[simp] theorem renderAll_eq_map (ts : List Ty) : renderAll ts = ts.map render := by
  induction ts with
  | nil => rfl
  | cons t ts ih => simp [renderAll, ih]

mutual

def qualify (s : Scope) : Ty → Ty
  | .keyword k => .keyword k
  | .this => .this
  | .object name => .object (s.qualify name)
  | .array of => .array (of.qualify s)
  | .nullable of => .nullable (of.qualify s)
  | .compound members => .compound (qualifyAll s members)

def qualifyAll (s : Scope) : List Ty → List Ty
  | [] => []
  | t :: ts => t.qualify s :: qualifyAll s ts

end

@[simp] theorem qualifyAll_eq_map (s : Scope) (ts : List Ty) :
    qualifyAll s ts = ts.map (qualify s) := by
  induction ts with
  | nil => rfl
  | cons t ts ih => simp [qualifyAll, ih]

inductive Key where
  | name (t : Text)
  | parts (keys : List Key)
deriving Repr, BEq

mutual

/-- The key of a type lists its parts and not which kind of type it is, so `?` and `[]` of one
    type have the same key. -/
def hashKey : Ty → Key
  | .keyword k => .parts [.name k.name]
  | .this => .parts []
  | .object name => .parts [.name name]
  | .array of => .parts [of.hashKey]
  | .nullable of => .parts [of.hashKey]
  | .compound members => .parts [.parts (hashKeys members)]

def hashKeys : List Ty → List Key
  | [] => []
  | t :: ts => t.hashKey :: hashKeys ts

end

end Ty

end DocTag
