import DocTag.Registry
import DocTag.Service.Payload

namespace DocTag

inductive Query where
  | method (body : Option Text)
  | param (body : Option Text)
  | line (text : Text)
deriving DecidableEq, Repr

namespace Query

def answer (valid : Text → Bool) (s : Scope) : Query → Json
  | method body => ((Method.recognise {} s body).map Tag.method).payload
  | param body => ((Parameter.recognise {} s body).map Tag.param).payload
  | line text => Tag.linePayload ((Registry.builtin valid).create s text)

def records (valid : Text → Bool) (s : Scope) : Query → List Record
  | method body => (Method.recognise {} s body).records
  | param body => (Parameter.recognise {} s body).records
  | line text => (Registry.builtin valid).records s text

end Query

inductive Call where
  | author (body : Text)
  | query (q : Query) (ns : Option Text)
deriving DecidableEq, Repr

namespace Call

def authorAnswer (valid : Text → Bool) (body : Text) : Json :=
  ((Author.read valid body).map Tag.author).payload

def authorRecords (valid : Text → Bool) (body : Text) : List Record :=
  (Author.read valid body).records

end Call

inductive Tool where
  | method
  | author
  | param
  | tag
deriving DecidableEq, Repr

namespace Tool

def all : List Tool := [method, author, param, tag]

def name : Tool → Text
  | method => "docblock_parse_method".toList
  | author => "docblock_parse_author".toList
  | param => "docblock_parse_param".toList
  | tag => "docblock_parse_tag".toList

def subject : Tool → Text
  | tag => "tag_line".toList
  | _ => "body".toList

def namespaceArgument : Text := "namespace".toList

def required (t : Tool) : List Text := [t.subject]

def arguments : Tool → List Text
  | author => required author
  | t => t.required ++ [namespaceArgument]

def find? (name : Text) : Option Tool := all.find? fun t => t.name == name

def call (subject : Text) (ns : Option Text) : Tool → Call
  | author => .author subject
  | method => .query (.method (some subject)) ns
  | param => .query (.param (some subject)) ns
  | tag => .query (.line subject) ns

end Tool

end DocTag
