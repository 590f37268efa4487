import SceneCompiler.Options
import SceneCompiler.Scene.Encode
/-!
# Outlines

A short view of a selection for transports with small payloads: bounded in depth and in the count of
nodes, with long names cut and coordinates rounded to one decimal place.
-/

namespace SceneCompiler

/-- A node of an outline. Without children it is a leaf; with them, some may have been dropped. -/
structure OutlineRecord where
  id : NodeId
  name : String
  type : NodeType
  x : Float32
  y : Float32
  width : Float32
  height : Float32

/-- A node of an outline with its children, if it shows any. -/
inductive OutlineNode where
  | node (record : OutlineRecord) (children : Option (List OutlineNode))

/-- An outline. -/
structure Outline where
  nodes : List OutlineNode := []
  nodeCount : Nat := 0
  /-- Visible nodes were dropped for their count or their depth. -/
  truncated : Bool := false

/-- A name of at most `limit` characters; a longer one ends in an ellipsis. -/
def truncateName (limit : Nat) (name : String) : String :=
  if name.length ≤ limit then name
  else String.ofList (name.toList.take (limit - 1) ++ ['…'])

def OutlineRecord.of (limits : Limits) (n : SceneNode) : OutlineRecord where
  id := n.id
  name := truncateName limits.structureMaxNameChars n.name
  type := n.type
  x := roundTo n.bounds.x 1
  y := roundTo n.bounds.y 1
  width := roundTo n.bounds.width 1
  height := roundTo n.bounds.height 1

/-- What is left for the rest of an outline: the count of nodes it may still have, and whether
something was dropped. -/
structure OutlineBudget where
  room : Nat
  truncated : Bool

namespace SceneGraph

/-- The outlines of some siblings in order, each made by `one`, as long as there is room. -/
def outlineSiblings (one : OutlineBudget → NodeId → Option OutlineNode × OutlineBudget) :
    OutlineBudget → List NodeId → List OutlineNode × OutlineBudget
  | b, [] => ([], b)
  | b, id :: rest =>
    if b.room = 0 then ([], { b with truncated := true })
    else
      let (first, b) := one b id
      let (others, b) := outlineSiblings one b rest
      (first.toList ++ others, b)

/-- The outline of a node at a depth, unless it is missing or hidden; `fuel` bounds the height. -/
def outlineNode (g : SceneGraph) (limits : Limits) (maxDepth : Nat) :
    Nat → Nat → OutlineBudget → NodeId → Option OutlineNode × OutlineBudget
  | 0, _, b, _ => (none, b)
  | fuel + 1, depth, b, id =>
    match (g.find? id).filter (·.visible) with
    | none => (none, b)
    | some n =>
      let record := OutlineRecord.of limits n
      let b := { b with room := b.room - 1 }
      let children := g.visibleChildIds id
      if children.isEmpty then (some (.node record none), b)
      else if maxDepth ≤ depth then (some (.node record none), { b with truncated := true })
      else
        let (shown, b) :=
          outlineSiblings (g.outlineNode limits maxDepth fuel (depth + 1)) b children
        (some (.node record (some shown)), b)

/-- The outline of some roots. The depth counts levels below each root. -/
def outline (g : SceneGraph) (roots : List NodeId) (depth : Option Nat) (limits : Limits) :
    Outline :=
  let maxDepth := depth.getD limits.structureDefaultDepth
  let (nodes, b) := outlineSiblings (g.outlineNode limits maxDepth g.owners.size 0)
    ⟨limits.structureMaxNodes, false⟩ roots
  { nodes, nodeCount := limits.structureMaxNodes - b.room, truncated := b.truncated }

end SceneGraph

/-! ### JSON -/

def OutlineRecord.members (r : OutlineRecord) : List (String × Json) :=
  [("height", .ofSingle r.height), ("id", r.id.toJson), ("name", .str r.name),
    ("type", .str r.type.name), ("width", .ofSingle r.width), ("x", .ofSingle r.x),
    ("y", .ofSingle r.y)]

namespace OutlineNode

mutual

/-- The JSON form of a node. A leaf has no children. -/
def toJson : OutlineNode → Json
  | .node record none => .obj record.members
  | .node record (some children) =>
    .obj (("children", .arr (listToJson children)) :: record.members)

def listToJson : List OutlineNode → List Json
  | [] => []
  | n :: rest => toJson n :: listToJson rest

end

end OutlineNode

def Outline.toJson (o : Outline) : Json :=
  .obj [("node_count", .ofNat o.nodeCount), ("nodes", .arr (OutlineNode.listToJson o.nodes)),
    ("truncated", .bool o.truncated)]

end SceneCompiler
