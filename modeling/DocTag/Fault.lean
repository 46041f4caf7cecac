import DocTag.Text.Quoted

namespace DocTag

inductive Kind where
  | method
  | param
  | author
deriving DecidableEq, Repr

def Kind.name : Kind → Text
  | .method => "method".toList
  | .param => "param".toList
  | .author => "author".toList

inductive Fault where
  | emptyType
  | emptyBody (kind : Kind)
  | noResolver (kind : Kind)
  | noDescriptions (kind : Kind)
  | emptyMethodName
  | argumentFields (keys : List Text)
  | authorName
  | authorEmail
  | tagLine (line : Text)
  | registered (tag message : Text)
deriving DecidableEq, Repr

namespace Fault

def message : Fault → Text
  | emptyType => "Attempted to resolve an empty type".toList
  | emptyBody kind => "The ".toList ++ kind.name ++ " tag body must be a non-empty string".toList
  | noResolver kind => "The ".toList ++ kind.name ++ " tag requires a type resolver".toList
  | noDescriptions kind =>
    "The ".toList ++ kind.name ++ " tag requires a description factory".toList
  | emptyMethodName => "The method tag requires a non-empty method name".toList
  | argumentFields keys =>
    "Arguments can only have the \"name\" and \"type\" fields, found: ".toList ++ Text.quoteAll keys
  | authorName => "The author tag does not have a valid name".toList
  | authorEmail => "The author tag does not have a valid e-mail address".toList
  | tagLine line => "Not a valid tag line: ".toList ++ line.quote
  | registered _ message => message

def tag? : Fault → Option Text
  | emptyType => none
  | emptyBody kind | noResolver kind | noDescriptions kind => some kind.name
  | emptyMethodName | argumentFields _ => some Kind.method.name
  | authorName | authorEmail => some Kind.author.name
  | tagLine _ => none
  | registered tag _ => some tag

end Fault

end DocTag
