import DocTag.Tag.Parameter

/-!
The reading of methods. A body is decomposed from left to right: the word `static`, a return type,
the name, the arguments between parentheses, and the description. Only the name is required.
-/

namespace DocTag

def isTypeChar (c : Char) : Bool := isWord c || c == '|' || c == '\\'

namespace Method

def startsWord : Text → Bool
  | [] => false
  | c :: _ => isWord c

def isThisToken (t : Text) : Bool :=
  match "$this".toList.isPrefixOf? (t.dropWhile isTypeChar) with
  | some rest => rest.all isTypeChar
  | none => false

def isTypeTail : Text → Bool
  | [] => true
  | '[' :: ']' :: rest => isTypeTail rest
  | c :: rest => isTypeChar c && isTypeTail rest

def isTypeToken : Text → Bool
  | [] => false
  | c :: rest => isTypeChar c && isTypeTail rest

def isReturnToken (t : Text) : Bool := t.isEmpty || isThisToken t || isTypeToken t

/-- The return type at the start of a text and what follows the blanks after it. It is there when
    the text up to the first blank is one and the next word can start a name. -/
def returnToken? (t : Text) : Option (Text × Text) :=
  let token := t.takeWhile (!isBlank ·)
  let rest : Text := t.dropWhile (!isBlank ·)
  if !rest.isEmpty && startsWord rest.trimStart && isReturnToken token then
    some (token, rest.trimStart)
  else none

def static? (body : Text) : Option Text :=
  match "static".toList.isPrefixOf? body with
  | none => none
  | some rest =>
    let after := Text.trimStart rest
    if after.length < rest.length && (startsWord after || (returnToken? after).isSome) then
      some after
    else none

/-- The arguments between parentheses at the start of a text and what follows them. The first
    closing parenthesis ends them. -/
def arguments? : Text → Option (Text × Text)
  | '(' :: t =>
    match t.dropWhile (· != ')') with
    | [] => none
    | _ :: rest => some (t.takeWhile (· != ')'), rest)
  | _ => none

structure Signature where
  isStatic : Bool
  returns : Text
  name : Text
  arguments : Text
  description : Text
deriving DecidableEq, Repr

def Signature.ofName? (isStatic : Bool) (returns t : Text) : Option Signature :=
  match t.takeWhile isWord with
  | [] => none
  | name =>
    let rest : Text := t.dropWhile isWord
    match arguments? rest with
    | some (arguments, rest) => some ⟨isStatic, returns, name, arguments, rest.trimStart⟩
    | none => some ⟨isStatic, returns, name, [], rest.trimStart⟩

def Signature.ofReturn? (isStatic : Bool) (t : Text) : Option Signature :=
  match returnToken? t with
  | some (token, rest) => ofName? isStatic token rest
  | none => ofName? isStatic [] t

def Signature.ofBody? (body : Text) : Option Signature :=
  match static? body with
  | some rest => ofReturn? true rest
  | none => ofReturn? false body

theorem Signature.name_ne_nil_of_ofName? {isStatic : Bool} {returns t : Text} {sig : Signature}
    (h : ofName? isStatic returns t = some sig) : sig.name ≠ [] := by
  unfold ofName? at h
  split at h
  · simp at h
  · rename_i name
    simp only at h
    split at h <;> simp only [Option.some.injEq] at h <;> subst h <;> simpa using name

theorem Signature.name_ne_nil_of_ofBody? {body : Text} {sig : Signature}
    (h : ofBody? body = some sig) : sig.name ≠ [] := by
  unfold ofBody? ofReturn? at h
  split at h <;> split at h <;> exact name_ne_nil_of_ofName? h

def readArguments (s : Scope) (method : Text) : List Text → Reading (List Parameter)
  | [] => .found []
  | fragment :: rest =>
    match Parameter.read s fragment with
    | .refused why => .refused why
    | .missed why => .missed (.badArgument fragment method why)
    | .found p => (readArguments s method rest).map (p :: ·)

def read (s : Scope) (body : Text) : Reading Method :=
  match h : Signature.ofBody? body with
  | none => .missed (.notMethod body)
  | some sig =>
    let returns := if sig.returns.isEmpty then "void".toList else sig.returns
    match Ty.resolve s returns with
    | .error why => .refused why
    | .ok type =>
      (readArguments s sig.name sig.arguments.arguments).map fun parameters =>
        { name := sig.name
          returns := type
          isStatic := sig.isStatic
          description := some sig.description.dedent
          parameters
          name_ne_nil := Signature.name_ne_nil_of_ofBody? h }

def recognise (e : Equipment) (s : Scope) (body : Option Text) : Reading Method :=
  e.reading .method body (read s)

def ofParts (name : Option Text) (returns : Ty) (isStatic : Bool) (description : Option Text)
    (parameters : List Parameter) : Except Fault Method :=
  match name with
  | none | some [] => .error .emptyMethodName
  | some (c :: name) => .ok { name := c :: name, returns, isStatic, description, parameters,
                              name_ne_nil := by simp }

inductive Field where
  | name (value : Text)
  | type (value : Option Ty)
  | other (key : Text)
deriving DecidableEq, Repr

def Field.key : Field → Text
  | name _ => "name".toList
  | type _ => "type".toList
  | other key => key

inductive Argument where
  | bare (name : Text)
  | fields (fs : List Field)
deriving DecidableEq, Repr

namespace Argument

def keys : Argument → List Text
  | bare _ => [Field.key (.name [])]
  | fields fs => (fs.map Field.key).mergeSort Text.lessEq

def name : Argument → Text
  | bare name => name
  | fields fs => (fs.findSome? fun | .name value => some value | _ => none).getD []

def type : Argument → Ty
  | bare _ => .mixed
  | fields fs => (fs.findSome? fun | .type value => value | _ => none).getD .mixed

def toParameter (a : Argument) : Except Fault Parameter :=
  if a.keys = ["name".toList] ∨ a.keys = ["name".toList, "type".toList] then
    .ok { name := a.name, type := a.type }
  else .error (.argumentFields a.keys)

end Argument

/-- A method tag from arguments in the older style. A bad argument is reported before a bad name,
    and the first of several. -/
def ofArguments (name : Option Text) (arguments : List Argument) (returns : Option Ty)
    (isStatic : Bool) (description : Option Text) : Except Fault Method :=
  match arguments.mapM Argument.toParameter with
  | .error why => .error why
  | .ok parameters => ofParts name (returns.getD .void) isStatic description parameters

end Method

end DocTag
