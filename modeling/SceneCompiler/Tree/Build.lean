import SceneCompiler.Tree.Basic
/-!
# Building the visible tree

`SceneGraph.visibleTree` walks the visible nodes below some roots. The nodes are counted level by
level first; when there are more than the policy allows, the deepest level within the budget becomes
the depth limit, and nodes at that depth lose their children.

A name leads to the node that owns it, so with repeated names the walk does not follow the edges of
the graph. Names still never lead back to themselves, for the owner of a child's name was added
after the owner of the parent's name; hence walks are at most as deep as there are names.
-/

namespace SceneCompiler

/-! ### Tags -/

/-- The element for a node, and the picture it stands for. -/
def inferTag (n : SceneNode) : Tag × Option AssetKind :=
  if n.hasVisibleImageFill then (.img, some .image)
  else if n.type = .text then
    let hasText := n.text.any fun t => t.segments.any fun s => !s.characters.isEmpty
    (if hasText then .p else .span, none)
  else if n.type.isVectorGeometry then (.svg, some .vector)
  else (.div, none)

/-! ### Hints -/

/-- One property of a component as text; properties that swap instances have none. The name loses
its suffix. -/
def ComponentProperty.text? (p : ComponentProperty) : Option String :=
  let name := String.ofList (trimChars (p.name.toList.takeWhile (· ≠ '#')))
  let value := match p.value with
    | .flag true => "on"
    | .flag false => "off"
    | .text s => s
  if p.kind = .instanceSwap then none else some ("[" ++ name ++ "=" ++ value ++ "]")

/-- The component in words, for instance `Button [Size=Large] [Disabled=off]`. -/
def ComponentInfo.identity (info : ComponentInfo) : String :=
  String.intercalate " " (info.setName.getD info.name :: info.properties.filterMap (·.text?))

/-- What is known of the layout of a container that has children: nothing to say for an explicit
one. -/
def layoutKnowledge? (n : SceneNode) (hasChildren : Bool) : Option String :=
  if n.type.isContainer && hasChildren && n.layout.isNone then
    some (if n.inferredLayout.isSome then "inferred" else "none")
  else none

def modesText? (n : SceneNode) : Option String :=
  if n.variableModes.isEmpty then none
  else some (String.intercalate ", " (n.variableModes.toList.map fun (c, m) => c ++ "=" ++ m))

def nodeHints (n : SceneNode) (hasChildren : Bool) : TextMap :=
  [(componentHint, n.component.map (·.identity)),
    (layoutHint, layoutKnowledge? n hasChildren),
    (modesHint, modesText? n)].foldl
      (fun hints (key, text) => match text with
        | some text => hints.insert key text
        | none => hints) ∅

/-! ### Depth -/

/-- How many leading levels stay within a budget together. -/
def fittingLevels (budget : Nat) : List Nat → Nat
  | [] => 0
  | count :: rest => if count ≤ budget then fittingLevels (budget - count) rest + 1 else 0

/-- The depth limit for a tree with the given count of nodes on each level: the deepest level within
the budget, or the first one. Trees within the threshold need none. -/
def DepthPolicy.limit? (policy : DepthPolicy) (levels : List Nat) : Option Nat :=
  if levels.foldl (· + ·) 0 ≤ policy.capThreshold then none
  else some (fittingLevels policy.targetBudget levels - 1)

namespace SceneGraph

/-- The count of visible nodes on each level from some nodes down; `fuel` bounds the levels. -/
def levelCounts (g : SceneGraph) : Nat → List NodeId → List Nat
  | _, [] => []
  | 0, _ => []
  | fuel + 1, ids => ids.length :: g.levelCounts fuel (ids.flatMap g.visibleChildIds)

/-! ### The walk -/

/-- One step of the walk: a node as the tree keeps it, and whether it lost its children. -/
structure Visit where
  node : VisibleNode
  capped : Bool

/-- The visit of a node at a depth and a place among its siblings. -/
def visit (g : SceneGraph) (limit : Option Nat) (depth index : Nat) (n : SceneNode) : Visit :=
  let children := g.visibleChildIds n.id
  let capped := limit.any (· ≤ depth) && !children.isEmpty
  let (tag, assetKind) := inferTag n
  { capped
    node := {
      id := n.id
      type := n.type
      tag
      name := n.name
      visible := n.visible
      depth
      index
      bounds := n.bounds.rounded 3
      renderBounds := n.renderBounds.map (·.rounded 3)
      children := if capped then [] else children
      -- Hidden children count for the hints, and so do those that the depth limit takes away.
      hints := nodeHints n !(g.childIds n.id).isEmpty
      autoLayout := n.layout <|> n.inferredLayout
      assetKind } }

/-- The visits of some siblings and all below them in pre-order; `fuel` bounds the height. -/
def visits (g : SceneGraph) (limit : Option Nat) : Nat → Nat → List NodeId → List Visit
  | 0, _, _ => []
  | fuel + 1, depth, ids =>
    ids.zipIdx.flatMap fun (id, index) =>
      match g.find? id with
      | some n =>
        let v := g.visit limit depth index n
        v :: g.visits limit fuel (depth + 1) v.node.children
      | none => []

/-- The roots that count: each once, and only where it resolves to a visible node. -/
def visibleRoots (g : SceneGraph) (roots : List NodeId) : List NodeId :=
  roots.eraseDups.filter g.isVisible

/-- The visible tree below some roots. Roots that are missing or hidden are left out. -/
def visibleTree (g : SceneGraph) (roots : List NodeId) (policy : DepthPolicy) : VisibleTree :=
  let rootIds := g.visibleRoots roots
  let limit := policy.limit? (g.levelCounts g.owners.size rootIds)
  let visits := g.visits limit g.owners.size 0 rootIds
  { rootIds
    order := visits.map (·.node.id)
    nodes := visits.foldl (fun nodes v => nodes.insert v.node.id v.node) ∅
    maxDepth := (visits.map (·.node.depth)).foldl max 0
    depthLimit := limit
    cappedIds := (visits.filter (·.capped)).map (·.node.id) }

end SceneGraph

end SceneCompiler
