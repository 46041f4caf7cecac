import DocTag.Text.Basic

namespace DocTag.Settings

/-- Why a file cannot be looked up: its name is no path, starts in the home folder of somebody who
    has none, has the character zero in the name of a user, or is longer than a name can be. -/
inductive PathFault where
  | notPath
  | noHome
  | userName
  | tooLong
deriving DecidableEq, Repr

structure Place where
  environment : List (Text × Text) := []
  folders : List Text := []
  homes : List (Text × Text) := []
  home : Option Text := none
deriving DecidableEq, Repr

structure World extends Place where
  files : List (Text × Text) := []
deriving DecidableEq, Repr

-- Parts that are empty or a single dot do not count.
def pathParts (t : Text) : List Text :=
  (t.splitOn '/').filter fun p => !p.isEmpty && p != ['.']

-- All slashes at the start count as one, except two.
def pathRoot (t : Text) : Text :=
  match t with
  | '/' :: '/' :: '/' :: _ => ['/']
  | '/' :: '/' :: _ => ['/', '/']
  | '/' :: _ => ['/']
  | _ => []

def normalPath (t : Text) : Text :=
  match pathRoot t ++ ['/'].intercalate (pathParts t) with
  | [] => ['.']
  | path => path

def joinPath (folder name : Text) : Text :=
  pathRoot folder ++ ['/'].intercalate (pathParts folder ++ [name])

def assign (name : Text) (value : α) : List (Text × α) → List (Text × α)
  | [] => [(name, value)]
  | (n, v) :: rest => if n = name then (n, value) :: rest else (n, v) :: assign name value rest

def assignAll (pairs : List (Text × α)) : List (Text × α) :=
  pairs.foldl (fun m (name, value) => assign name value m) []

namespace Place

def homeOf? (p : Place) (user : Text) : Option Text :=
  if user.isEmpty then (p.environment.lookup "HOME".toList).or p.home else p.homes.lookup user

def dropSlashes (t : Text) : Text := (t.reverse.dropWhile (· == '/')).reverse

-- A folder without a name is the root.
def inFolder (folder path : Text) : Text :=
  if folder.isEmpty then '/' :: path else folder ++ '/' :: path

def expand (p : Place) (path : Text) : Except PathFault Text :=
  match normalPath path with
  | '~' :: rest =>
    let user : Text := rest.takeWhile (· != '/')
    if user.contains '\x00' then .error .userName
    else
      match (p.homeOf? user).map dropSlashes with
      | none | some ('~' :: _) => .error .noHome
      | some home => .ok (normalPath (inFolder home (rest.drop (user.length + 1))))
  | path => .ok path

/-- Whether one of some parts of a path is too long for a name, all parts before it being folders.
    The folder that they are in is its own parts, the last one first, unless it is not known. -/
def meetsLong (p : Place) (folder : Option (List Text)) : List Text → Bool
  | [] => false
  | part :: rest =>
    if 255 < part.byteCount then true
    else if part = ['.', '.'] then meetsLong p (folder.map (List.drop 1)) rest
    else
      match folder.map (part :: ·) with
      | none => false
      | some parts =>
        p.folders.contains ('/' :: ['/'].intercalate parts.reverse) && meetsLong p (some parts) rest

-- There is no file whose path has the character zero in it.
def isTooLong (p : Place) (path : Text) : Bool :=
  !path.contains '\x00'
    && (4095 < path.byteCount
      || p.meetsLong (if (pathRoot path).isEmpty then none else some []) (pathParts path))

end Place

namespace World

def setVariable (w : World) (name : Text) : Option Text → World
  | some value => { w with environment := assign name value w.environment }
  | none => { w with environment := w.environment.filter fun v => v.1 != name }

def writeFile (w : World) (path text : Text) : World :=
  { w with files := assign (normalPath path) text w.files }

def textOf? (w : World) (path : Text) : Except PathFault (Option Text) :=
  if w.isTooLong path then .error .tooLong else .ok (w.files.lookup path)

end World

end DocTag.Settings
