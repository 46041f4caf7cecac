import DocTag.Fault
import DocTag.Ty.Basic
import DocTag.Ty.Form

namespace DocTag.Ty

def atom (t : Text) : Ty :=
  if t = "$this".toList then .this
  else
    match Keyword.ofText? t with
    | some k => .keyword k
    | none => .object t

def read? (raw : Text) : Option Ty :=
  match _form : Form.ofText raw with
  | .blank => none
  | .union members => (members.attach.mapM fun part => read? part.1).map .compound
  | .nullable of => (read? of).map .nullable
  | .array of => (read? of).map .array
  | .group inner => read? inner
  | .name t => some (atom t)
termination_by raw.length
decreasing_by
  · exact Form.length_lt_of_mem_parts (by simpa [_form, Form.parts] using part.2)
  all_goals exact Form.length_lt_of_mem_parts (by simp [_form, Form.parts])

def resolve (s : Scope) (raw : Text) : Except Fault Ty :=
  match read? raw with
  | some t => .ok (t.qualify s)
  | none => .error .emptyType

def mixed : Ty := .keyword .mixed

def void : Ty := .keyword .void

end DocTag.Ty
