import DocTag.Text.Case

namespace DocTag

structure Scope where
  ns : Text := []
  aliases : List (Text × Text) := []
deriving DecidableEq, Repr

namespace Text

def stripOf (c : Char) (t : Text) : Text :=
  ((t.dropWhile (· == c)).reverse.dropWhile (· == c)).reverse

def lessEq : Text → Text → Bool
  | [], _ => true
  | _ :: _, [] => false
  | c :: t, d :: u => if c = d then lessEq t u else c.toNat ≤ d.toNat

end Text

namespace Scope

def target? (s : Scope) (head : Text) : Option Text :=
  (s.aliases.find? fun pair => pair.1.lower == head.lower).map Prod.snd

/-- The full name of a class. A name with a leading backslash is full already; else its first
    segment is looked up among the aliases, and failing that the name lies in the namespace. -/
def qualify (s : Scope) (name : Text) : Text :=
  match name with
  | '\\' :: _ => name
  | _ =>
    match s.target? (name.takeWhile (· != '\\')) with
    | some target => '\\' :: target.stripOf '\\' ++ name.dropWhile (· != '\\')
    | none =>
      match s.ns.stripOf '\\' with
      | [] => '\\' :: name
      | ns => '\\' :: ns ++ '\\' :: name

theorem exists_qualify_eq (s : Scope) (name : Text) : ∃ rest, s.qualify name = '\\' :: rest := by
  unfold qualify
  split
  · exact ⟨_, rfl⟩
  · split
    · exact ⟨_, rfl⟩
    · split <;> exact ⟨_, rfl⟩

def same (s u : Scope) : Bool :=
  s.ns == u.ns && s.aliases.length == u.aliases.length
    && s.aliases.all fun pair => u.aliases.lookup pair.1 == some pair.2

def sortedAliases (s : Scope) : List (Text × Text) :=
  s.aliases.mergeSort fun a b => if a.1 = b.1 then a.2.lessEq b.2 else a.1.lessEq b.1

def hashKey (s : Scope) : Text × List (Text × Text) := (s.ns, s.sortedAliases)

end Scope

end DocTag
