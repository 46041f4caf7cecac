import DocTag.Address.Basic
import DocTag.Json.Read
import DocTag.Service.Basic
import DocTag.Settings.Standard

namespace DocTag

namespace Tool

/-- The namespace that a call gives, if it gives one. It may be wrapped in JSON: a null is none, and
    neither a list nor an object can be one, nor a number that is too long to be worked out. -/
def namespaceOf? (arguments : Json) : Option (Option Text) :=
  match arguments.get? namespaceArgument with
  | none | some .null => some none
  | some (.text t) =>
    match Json.read? t with
    | some .null => some none
    | some (.list _) | some (.object _) | some (.mixed _ _) => none
    | some j => if j.isModest then some (some t) else none
    | none => some (some t)
  | some _ => none

-- Arguments that the tool does not know are ignored.
def parameters? (t : Tool) (arguments : Json) : Option (Text × Option Text) := do
  let subject ← (arguments.get? t.subject).bind Json.text?
  match t with
  | author => return (subject, none)
  | _ => return (subject, ← namespaceOf? arguments)

end Tool

def Service.standard (folder : Text → Settings.Place → Except Settings.Fault Text) :
    Support Settings.Fault where
  load := Settings.load (Settings.standard folder)
  valid := Address.isValid
  parameters := Tool.parameters?

end DocTag
