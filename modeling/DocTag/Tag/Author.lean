import DocTag.Tag.Basic

namespace DocTag.Author

def faults (valid : Text → Bool) (name email : Option Text) : List Fault :=
  (if name.isSome then [] else [.authorName])
    ++ match email with
      | none => [.authorEmail]
      | some t => if t.isEmpty || valid t then [] else [.authorEmail]

def ofParts (valid : Text → Bool) (name email : Option Text) : Except Fault Author :=
  match faults valid name email with
  | why :: _ => .error why
  | [] => .ok ⟨name.getD [], email.getD []⟩

def dropNewline (t : Text) : Text := (['\n'].isSuffixOf? t).getD t

def split? (t : Text) : Option (Text × Text) :=
  let name := t.takeWhile (· != '<')
  match t.dropWhile (· != '<') with
  | [] => some (name, [])
  | _ :: rest =>
    if rest.dropWhile (· != '>') = ['>'] then some (name, rest.takeWhile (· != '>')) else none

def read (valid : Text → Bool) (content : Text) : Reading Author :=
  let content := dropNewline content
  match split? content with
  | none => .missed (.notAuthor content)
  | some (name, email) =>
    match ofParts valid (some name.trim) (some email.trim) with
    | .ok a => .found a
    | .error why => .refused why

end DocTag.Author
