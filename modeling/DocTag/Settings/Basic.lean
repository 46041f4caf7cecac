import DocTag.Datum
import DocTag.Scope
import DocTag.Settings.World
import DocTag.Text.Case

/-!
Settings, and how they are loaded from a caller, the environment and a file. What reads these
sources, merges them and judges the values is left open, as `Support`.
-/

namespace DocTag

structure Settings where
  configFile : Option Text := none
  ns : Text := []
  aliases : List (Text × Text) := []
  logLevel : Text := "WARNING".toList
deriving DecidableEq, Repr

namespace Settings

inductive Field where
  | configFile
  | ns
  | aliases
  | logLevel
deriving DecidableEq, Repr

def Field.name : Field → Text
  | configFile => "config_file".toList
  | ns => "namespace".toList
  | aliases => "aliases".toList
  | logLevel => "log_level".toList

abbrev Layer := Field → Option Datum

/-- What loading relies on: `P` is what can be wrong with a value, `E` why loading fails. -/
structure Support (P E : Type) where
  caller : List (Datum × Datum) → Layer
  -- the variables whose names start with `lead`
  environment : (lead : Text) → List (Text × Text) → Except E Layer
  -- the folder for the configuration of a program
  folder : (program : Text) → Place → Except E Text
  -- what is in the files that a value names, and what that gives for the fields
  entries : World → Datum → Except E (List (Datum × Datum))
  fields : List (Datum × Datum) → Except E Layer
  merge : (high low : Layer) → Layer
  -- a text, a path that may be absent, and a mapping of texts to texts
  text : Datum → Except P Text
  path : Datum → Except P (Option Text)
  texts : Datum → Except P (List (Text × Text))
  invalid : List (Field × P) → E

def programName : Text := "docblock-mcp".toList

def configName : Text := "config.yaml".toList

def variableLead : Text := "DOCBLOCK_MCP_".toList

variable {P E : Type}

def judged (read : Datum → Except P α) (default : α) : Option Datum → Except P α
  | none => .ok default
  | some d => read d

def problemsOf (f : Field) : Except P α → List (Field × P)
  | .ok _ => []
  | .error p => [(f, p)]

namespace Support

def level (support : Support P E) (d : Datum) : Except P Text := (support.text d).map Text.upper

-- All problems are told at once.
def ofLayer (support : Support P E) (l : Layer) : Except E Settings :=
  match judged support.path none (l .configFile), judged support.text [] (l .ns),
    judged support.texts [] (l .aliases), judged support.level "WARNING".toList (l .logLevel) with
  | .ok configFile, .ok ns, .ok aliases, .ok logLevel => .ok ⟨configFile, ns, aliases, logLevel⟩
  | configFile, ns, aliases, logLevel =>
    .error (support.invalid (problemsOf .configFile configFile ++ problemsOf .ns ns
      ++ problemsOf .aliases aliases ++ problemsOf .logLevel logLevel))

def file (support : Support P E) (p : Place) (caller : Layer) : Except E Datum :=
  match (caller .configFile).filter Datum.isGiven with
  | some d => .ok d
  | none => do
    let environment ← support.environment variableLead p.environment
    match (environment .configFile).filter Datum.isGiven with
    | some d => .ok d
    | none => return .text (joinPath (← support.folder programName p) configName)

end Support

/-- Loads settings. The caller ranks over the environment, and that over the file. The values are
    judged after the merge, so a bad value under a good one does no harm. -/
def load (support : Support P E) (w : World) (given : List (Datum × Datum)) :
    Except E Settings := do
  let caller := support.caller given
  let entries ← support.entries w (← support.file w.toPlace caller)
  let environment ← support.environment variableLead w.environment
  let file ← support.fields entries
  support.ofLayer (support.merge (support.merge caller environment) file)

def loadFrom (support : Support P E) (w : World) (path : Option Text) : Except E Settings :=
  load support w <|
    match path with
    | none => []
    | some t => [(.text Field.configFile.name, .text (normalPath t))]

def scope (s : Settings) (ns : Option Text) : Scope := ⟨ns.getD s.ns, s.aliases⟩

end Settings

end DocTag
