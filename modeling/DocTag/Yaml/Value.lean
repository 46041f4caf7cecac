import DocTag.Yaml.Binary
import DocTag.Yaml.Merge
import DocTag.Yaml.Number

namespace DocTag.Yaml

def require (why : Fault) : Option α → Except Fault α
  | some a => .ok a
  | none => .error why

def Form.bool? (t : Text) : Option Bool :=
  let t := t.map Char.toLower
  if t = "yes".toList ∨ t = "true".toList ∨ t = "on".toList then some true
  else if t = "no".toList ∨ t = "false".toList ∨ t = "off".toList then some false
  else none

def scalarMoment (t : Text) : Except Fault Datum :=
  let t := Form.body t
  match (Form.date? 1 t).or (Form.dateTime? t) with
  | none => .error .notMoment
  | some m => if m.isValid then .ok (.moment m) else .error .noSuchValue

def scalarValue (mark : Nat) (kind : Kind) (t : Loose) : Except Fault Datum :=
  match kind with
  | .null => .ok .null
  | .str => .ok (.ofLoose t)
  | .bool => (require .unknownWord (Form.bool? t.shown)).map .bool
  | .int => (Number.int t.shown).map .int
  | .float => Number.real mark t.shown
  | .timestamp => scalarMoment t.shown
  | .binary => (require .malformed (Binary.read? t.shown)).map .bytes
  | _ => .error .malformed

def Graph.scalarOf (g : Graph) : (bound node : Nat) → Except Fault Loose
  | 0, _ => .error .malformed
  | bound + 1, node =>
    match g[node]?.map Node.content with
    | some (.scalar t) => .ok t
    | some (.mapping pairs) =>
      match pairs.find? fun (key, _) => g.kindOf key = .value with
      | some (_, value) => g.scalarOf bound value
      | none => .error .malformed
    | _ => .error .malformed

inductive Part where
  | whole (d : Datum)
  | list (items : List Nat)
  | entries (pairs : List (Nat × Nat))
  | set (keys : List Datum)
  | mapping (pairs : List (Datum × Nat))
deriving Repr

structure Builder where
  graph : Graph
  parts : Array (Option Part)
  -- The collections whose members are still to be looked at, the last one first.
  waiting : List Nat := []

abbrev Build := StateT Builder (Except Fault)

namespace Build

def setPart (node : Nat) (part : Part) : Build Unit :=
  modify fun b => { b with parts := b.parts.setIfInBounds node (some part) }

def visit (node : Nat) : Build Unit := do
  let b ← get
  if ((b.parts[node]?).getD none).isNone then
    let kind := b.graph.kindOf node
    match kind with
    | .seq | .map | .set | .omap | .pairs =>
      setPart node (.list [])
      modify fun b => { b with waiting := node :: b.waiting }
    | _ =>
      if kind = .unknown ∨ kind = .merge ∨ kind = .value then throw .malformed
      let t ← b.graph.scalarOf (b.graph.size + 1) node
      if kind = .timestamp ∧ b.graph.isMapping node then throw .notScalar
      setPart node (.whole (← scalarValue node kind t))

def visitPairs : List (Nat × Nat) → Build (List (Datum × Nat))
  | [] => return []
  | (key, value) :: rest => do
    visit key
    match ((← get).parts[key]?).getD none with
    | some (.whole d) =>
      visit value
      return (d, value) :: (← visitPairs rest)
    | _ => throw .malformed

def visitEntries : List Nat → Build (List (Nat × Nat))
  | [] => return []
  | item :: rest => do
    let g := (← get).graph
    match g.isMapping item, g.pairsOf item with
    | true, [(key, value)] =>
      visit key
      visit value
      return (key, value) :: (← visitEntries rest)
    | _, _ => throw .malformed

def pairsOf (node : Nat) : Build (List (Datum × Nat)) := do
  let g ← (← get).graph.merge node
  modify fun b => { b with graph := g }
  return Datum.putAll (← visitPairs (g.pairsOf node)) []

def expand (node : Nat) : Build Unit := do
  let g := (← get).graph
  match g.kindOf node, g[node]?.map Node.content with
  | .seq, some (.sequence items) =>
    items.forM visit
    setPart node (.list items)
  | .omap, some (.sequence items) | .pairs, some (.sequence items) =>
    setPart node (.entries (← visitEntries items))
  | .map, some (.mapping _) => setPart node (.mapping (← pairsOf node))
  | .set, some (.mapping _) => setPart node (.set ((← pairsOf node).map Prod.fst))
  | _, _ => throw .malformed

def expandAll : (bound : Nat) → Build Unit
  | 0 => throw .malformed
  | bound + 1 => do
    match (← get).waiting with
    | [] => pure ()
    | waiting =>
      modify fun b => { b with waiting := [] }
      waiting.reverse.forM expand
      expandAll bound

end Build

def Part.datum (known : Nat → Datum) : Part → Datum
  | whole d => d
  | list items => .list (items.map known)
  | entries pairs => .list (pairs.map fun (key, value) => .pair (known key) (known value))
  | set keys => .set keys
  | mapping pairs => .mapping (pairs.map fun (key, value) => (key, known value))

def Builder.data (b : Builder) : (depth : Nat) → Array Datum
  | 0 => b.parts.map fun p => ((p.getD (.list [])).datum fun _ => .null)
  | depth + 1 =>
    let below := b.data depth
    b.parts.map fun p => (p.getD (.list [])).datum fun node => below.getD node .null

/-- The depth to which the values of a text are known. A collection can hold itself. -/
def depth : Nat := 8

def read (t : Text) : Except Fault Datum := do
  match ← Graph.ofText t with
  | (_, none) => return .null
  | (g, some root) =>
    let start : Builder := { graph := g, parts := Array.replicate g.size none }
    let ((), b) ← (do Build.visit root; Build.expandAll (g.size + 1) : Build Unit).run start
    return (b.data depth).getD root .null

end DocTag.Yaml
