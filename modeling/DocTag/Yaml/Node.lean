import DocTag.Yaml.Plain
import DocTag.Yaml.Token

/-!
The nodes that tokens make up. A node is named by its number, so that an alias is the number of the
node it stands for, and a collection can hold itself.
-/

namespace DocTag.Yaml

inductive Content where
  | scalar (t : Loose)
  | sequence (items : List Nat)
  | mapping (pairs : List (Nat × Nat))
deriving Repr

structure Node where
  kind : Kind
  content : Content
deriving Repr

abbrev Graph := Array Node

structure Reader where
  tokens : Tokens
  handles : List (Text × Text)
  anchors : List (Text × Nat) := []
  graph : Graph := #[]

abbrev Parse := StateT Reader (Except Fault)

namespace Parse

def fail : Parse α := throw .malformed

def peek : Parse (Option Token) := do
  let tokens := (← get).tokens
  match tokens.ready, tokens.fault with
  | [], some why => throw why
  | ready, _ => return ready.head?

def advance : Parse Unit :=
  modify fun r => { r with tokens := { r.tokens with ready := r.tokens.ready.drop 1 } }

def comes (ts : List Token) : Parse Bool :=
  return match ← peek with
    | some t => ts.contains t
    | none => false

def expect (t : Token) : Parse Unit := do
  if ← comes [t] then advance else fail

def add (anchor : Option Text) (kind : Kind) (content : Content) : Parse Nat :=
  modifyGet fun r =>
    let anchors := (anchor.map fun name => (name, r.graph.size)).toList ++ r.anchors
    (r.graph.size, { r with anchors, graph := r.graph.push ⟨kind, content⟩ })

def fill (node : Nat) (content : Content) : Parse Unit :=
  modify fun r => { r with graph := r.graph.modify node fun n => { n with content } }

def defaultHandles : List (Text × Text) := [(['!'], ['!']), (['!', '!'], Kind.lead)]

def empty : Parse Nat := add none .null (.scalar [])

def anchor? : Parse (Option Text) := do
  match ← peek with
  | some (.anchor name) => advance; return some name
  | _ => return none

def tag? : Parse (Option (Option Text × Text)) := do
  match ← peek with
  | some (.tag handle suffix) => advance; return some (handle, suffix)
  | _ => return none

def resolve : Option Text × Text → Parse Text
  | (none, suffix) => pure suffix
  | (some handle, suffix) => do
    match (← get).handles.lookup handle with
    | some lead => return lead ++ suffix
    | none => fail

def properties : Parse (Option Text × Option Text) := do
  match ← anchor? with
  | some name =>
    match ← tag? with
    | some tag => return (some name, some (← resolve tag))
    | none => return (some name, none)
  | none =>
    match ← tag? with
    | some tag =>
      let anchor ← anchor?
      return (anchor, some (← resolve tag))
    | none => return (none, none)

def kindOf (tag : Option Text) (default : Kind) : Kind :=
  match tag with
  | none | some ['!'] => default
  | some tag => Kind.ofTag tag

def scalarKind (tag : Option Text) (plain : Bool) (t : Loose) : Kind :=
  kindOf tag (if plain ∨ tag = some ['!'] then (t.whole?.map Kind.ofPlain).getD .str else .str)

def claim : Option Text → Parse Unit
  | none => pure ()
  | some name => do if ((← get).anchors.lookup name).isSome then fail

mutual

def node (block indentless : Bool) : (bound : Nat) → Parse Nat
  | 0 => fail
  | bound + 1 => do
    match ← peek with
    | some (.alias name) =>
      advance
      match (← get).anchors.lookup name with
      | none => fail
      | some node => return node
    | _ =>
      let (anchor, tag) ← properties
      let next ← peek
      claim anchor
      match next with
      | some (.scalar plain t) =>
        advance
        add anchor (scalarKind tag plain t) (.scalar t)
      | some .flowSequenceStart =>
        advance
        let node ← add anchor (kindOf tag .seq) (.sequence [])
        fill node (.sequence (← flowItems true bound))
        return node
      | some .flowMappingStart =>
        advance
        let node ← add anchor (kindOf tag .map) (.mapping [])
        fill node (.mapping (← flowPairs true bound))
        return node
      | next =>
        if indentless ∧ next = some .blockEntry then
          let node ← add anchor (kindOf tag .seq) (.sequence [])
          fill node (.sequence (← blockItems true bound))
          return node
        else if block ∧ next = some .blockSequenceStart then
          advance
          let node ← add anchor (kindOf tag .seq) (.sequence [])
          fill node (.sequence (← blockItems false bound))
          return node
        else if block ∧ next = some .blockMappingStart then
          advance
          let node ← add anchor (kindOf tag .map) (.mapping [])
          fill node (.mapping (← blockPairs bound))
          return node
        else if anchor.isSome ∨ tag.isSome then add anchor (kindOf tag .null) (.scalar [])
        else fail

def nodeBefore (stops : List Token) (block indentless : Bool) : (bound : Nat) → Parse Nat
  | 0 => fail
  | bound + 1 => do
    if ← comes stops then empty else node block indentless bound

def valueBefore (stops : List Token) (block : Bool) : (bound : Nat) → Parse Nat
  | 0 => fail
  | bound + 1 => do
    if ← comes [.value] then
      advance
      nodeBefore stops block block bound
    else empty

def blockItems (indentless : Bool) : (bound : Nat) → Parse (List Nat)
  | 0 => fail
  | bound + 1 => do
    if ← comes [.blockEntry] then
      advance
      let stops := if indentless then [Token.blockEntry, .key, .value, .blockEnd]
        else [.blockEntry, .blockEnd]
      let item ← nodeBefore stops true false bound
      return item :: (← blockItems indentless bound)
    else if indentless then return []
    else
      expect .blockEnd
      return []

def blockPairs : (bound : Nat) → Parse (List (Nat × Nat))
  | 0 => fail
  | bound + 1 => do
    if ← comes [.key] then
      advance
      let stops := [Token.key, .value, .blockEnd]
      let key ← nodeBefore stops true true bound
      let value ← valueBefore stops true bound
      return (key, value) :: (← blockPairs bound)
    else
      expect .blockEnd
      return []

def flowItems (first : Bool) : (bound : Nat) → Parse (List Nat)
  | 0 => fail
  | bound + 1 => do
    unless first ∨ (← comes [.flowSequenceEnd]) do expect .flowEntry
    if ← comes [.flowSequenceEnd] then
      advance
      return []
    else if ← comes [.key] then
      advance
      let pair ← add none .map (.mapping [])
      let key ← nodeBefore [.value, .flowEntry, .flowSequenceEnd] false false bound
      let value ← valueBefore [.flowEntry, .flowSequenceEnd] false bound
      fill pair (.mapping [(key, value)])
      return pair :: (← flowItems false bound)
    else
      let item ← node false false bound
      return item :: (← flowItems false bound)

def flowPairs (first : Bool) : (bound : Nat) → Parse (List (Nat × Nat))
  | 0 => fail
  | bound + 1 => do
    unless first ∨ (← comes [.flowMappingEnd]) do expect .flowEntry
    if ← comes [.flowMappingEnd] then
      advance
      return []
    else if ← comes [.key] then
      advance
      let key ← nodeBefore [.value, .flowEntry, .flowMappingEnd] false false bound
      let value ← valueBefore [.flowEntry, .flowMappingEnd] false bound
      return (key, value) :: (← flowPairs false bound)
    else
      let key ← node false false bound
      let value ← empty
      return (key, value) :: (← flowPairs false bound)

end

def directives (versioned : Bool) (handles : List (Text × Text)) :
    (bound : Nat) → Parse (List (Text × Text))
  | 0 => fail
  | bound + 1 => do
    match ← peek with
    | some (.versionDirective major) =>
      advance
      if versioned ∨ major ≠ 1 then fail else directives true handles bound
    | some (.tagDirective handle lead) =>
      advance
      if (handles.lookup handle).isSome then fail
      else directives versioned ((handle, lead) :: handles) bound
    | some .otherDirective =>
      advance
      directives versioned handles bound
    | _ => return handles

def atDirective (next : Option Token) : Bool :=
  match next with
  | some (.versionDirective _) | some (.tagDirective _ _) | some .otherDirective => true
  | _ => false

def content (bound : Nat) : Parse Nat := do
  let next ← peek
  if next = none ∨ atDirective next ∨ next = some .documentStart ∨ next = some .documentEnd then
    empty
  else node true false bound

def documentEnds : (bound : Nat) → Parse Unit
  | 0 => fail
  | bound + 1 => do
    if ← comes [.documentEnd] then
      advance
      documentEnds bound

def conclude (bound : Nat) : Parse Unit := do
  documentEnds bound
  if (← peek).isSome then
    let _ ← directives false [] bound
    let _ ← peek
    fail

def document (bound : Nat) : Parse (Option Nat) := do
  let next ← peek
  match next with
  | none => return none
  | some _ =>
    let root ←
      if atDirective next ∨ next = some .documentStart then do
        let handles ← directives false [] bound
        modify fun r => { r with handles := handles ++ defaultHandles }
        expect .documentStart
        content bound
      else node true false bound
    conclude bound
    return some root

end Parse

def Graph.ofText (t : Text) : Except Fault (Graph × Option Nat) := do
  let tokens := Tokens.ofText t
  let start : Reader := { tokens, handles := Parse.defaultHandles }
  let (root, r) ← (Parse.document (4 * tokens.ready.length + 8)).run start
  return (r.graph, root)

end DocTag.Yaml
