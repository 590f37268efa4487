import SceneCompiler.Options
import SceneCompiler.Scene.Graph
/-!
# The visible tree

What a compilation sees of a scene: the visible nodes below some roots in pre-order, each with the
element it becomes and a few hints. Oversized trees are cut off at a depth, and the tree lists the
nodes that lost their children that way.
-/

namespace SceneCompiler

/-! ### Nodes of the tree -/

/-- The element that a node becomes. -/
inductive Tag where
  | div
  | span
  | p
  | img
  | svg
deriving DecidableEq, Repr

def Tag.name : Tag → String
  | div => "div"
  | span => "span"
  | p => "p"
  | img => "img"
  | svg => "svg"

/-- The kind of picture that a node stands for. -/
inductive AssetKind where
  | vector
  | image
deriving DecidableEq, Repr

/-- A node of the tree. -/
structure VisibleNode where
  id : NodeId
  type : NodeType
  tag : Tag
  name : String
  visible : Bool
  depth : Nat
  /-- The place among the visible siblings. -/
  index : Nat
  bounds : Box
  renderBounds : Option Box
  children : List NodeId
  hints : TextMap
  autoLayout : Option AutoLayout
  assetKind : Option AssetKind

def componentHint : String := "component"

/-- The hint that tells how far the layout of a container is known. -/
def layoutHint : String := "auto-layout"

def modesHint : String := "variable-modes"

/-! ### Trees -/

/-- The visible part of a selection. Where a name occurs twice in `order`, `nodes` has the record of
its last occurrence. -/
structure VisibleTree where
  rootIds : List NodeId := []
  /-- Every kept node, in pre-order. -/
  order : List NodeId := []
  nodes : Std.ExtTreeMap NodeId VisibleNode := ∅
  maxDepth : Nat := 0
  depthLimit : Option Nat := none
  /-- The nodes that lost their children to the depth limit. -/
  cappedIds : List NodeId := []

namespace VisibleTree

def find? (t : VisibleTree) (id : NodeId) : Option VisibleNode :=
  t.nodes[id]?

/-- The children of a node; none if it is not in the tree. -/
def childrenOf (t : VisibleTree) (id : NodeId) : List NodeId :=
  ((t.find? id).map (·.children)).getD []

def parentOf? (t : VisibleTree) (id : NodeId) : Option NodeId :=
  t.order.find? fun p => (t.childrenOf p).contains id

/-- A node and everything below it in pre-order; `fuel` bounds the height. -/
def subtree (t : VisibleTree) : Nat → NodeId → List NodeId
  | 0, _ => []
  | fuel + 1, id => id :: (t.childrenOf id).flatMap (t.subtree fuel)

/-- Everything below a node, in pre-order. -/
def descendants (t : VisibleTree) (id : NodeId) : List NodeId :=
  (t.childrenOf id).flatMap (t.subtree t.nodes.size)

/-- The tree lost some nodes to the depth limit. -/
def isCapped (t : VisibleTree) : Bool :=
  !t.cappedIds.isEmpty

end VisibleTree

end SceneCompiler
