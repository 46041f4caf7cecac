import DocTag.Yaml.Node

namespace DocTag.Yaml

namespace Graph

def kindOf (g : Graph) (node : Nat) : Kind := (g[node]?.map Node.kind).getD .unknown

def pairsOf (g : Graph) (node : Nat) : List (Nat × Nat) :=
  match g[node]?.map Node.content with
  | some (.mapping pairs) => pairs
  | _ => []

def isMapping (g : Graph) (node : Nat) : Bool :=
  match g[node]?.map Node.content with
  | some (.mapping _) => true
  | _ => false

def setKind (g : Graph) (node : Nat) (kind : Kind) : Graph := g.modify node fun n => { n with kind }

def setPairs (g : Graph) (node : Nat) (pairs : List (Nat × Nat)) : Graph :=
  g.modify node fun n => { n with content := .mapping pairs }

def weight (g : Graph) : Nat :=
  g.foldl (fun n node =>
    match node.content with
    | .scalar _ => n
    | .sequence items => n + items.length
    | .mapping pairs => n + pairs.length) 0

/-- Does the merges of a mapping from the pair at `index` on, given the pairs that are merged so
    far. A merge is taken out of the mapping before it is done, so that a mapping can be merged
    into itself. A key that is an equals sign becomes that text. -/
def mergeFrom : (bound : Nat) → (node index : Nat) → (merged : List (Nat × Nat)) → Graph →
    Except Fault Graph
  | 0, _, _, _, _ => .error .malformed
  | bound + 1, node, index, merged, g =>
    match (g.pairsOf node)[index]? with
    | none => .ok (if merged.isEmpty then g else g.setPairs node (merged ++ g.pairsOf node))
    | some (key, value) =>
      match g.kindOf key with
      | .merge => do
        let g := g.setPairs node ((g.pairsOf node).eraseIdx index)
        match g[value]?.map Node.content with
        | some (.mapping _) =>
          let g ← mergeFrom bound value 0 [] g
          mergeFrom bound node index (merged ++ g.pairsOf value) g
        | some (.sequence items) =>
          let (g, more) ← items.foldlM (fun (g, more) item =>
            if g.isMapping item then
              (mergeFrom bound item 0 [] g).map fun g => (g, g.pairsOf item ++ more)
            else .error .malformed) (g, [])
          mergeFrom bound node index (merged ++ more) g
        | _ => .error .malformed
      | .value => mergeFrom bound node (index + 1) merged (g.setKind key .str)
      | _ => mergeFrom bound node (index + 1) merged g

def merge (node : Nat) (g : Graph) : Except Fault Graph :=
  mergeFrom (Nat.pow 2 (g.weight + 8)) node 0 [] g

end Graph

end DocTag.Yaml
