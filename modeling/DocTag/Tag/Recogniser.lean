import DocTag.Tag.Basic
import DocTag.Text.Dedent

namespace DocTag

structure Equipment where
  resolver : Bool := true
  descriptions : Bool := true
deriving DecidableEq, Repr

def Equipment.admit (e : Equipment) (kind : Kind) (body : Option Text) : Except Fault Text :=
  match body with
  | none | some [] => .error (.emptyBody kind)
  | some t =>
    if !e.resolver then .error (.noResolver kind)
    else if !e.descriptions then .error (.noDescriptions kind)
    else .ok t

def Equipment.reading (e : Equipment) (kind : Kind) (body : Option Text)
    (read : Text → Reading α) : Reading α :=
  match e.admit kind body with
  | .ok t => read t
  | .error why => .refused why

theorem Equipment.reading_text {kind : Kind} {body : Text} (h : body ≠ [])
    {read : Text → Reading α} : Equipment.reading {} kind (some body) read = read body := by
  cases body with
  | nil => contradiction
  | cons c t => rfl

end DocTag
