import SceneCompiler.Scene.Node
/-!
# The scene graph

A scene is a forest of nodes. Every node sits in a numbered slot, and the slots of removed nodes are
used again, the most recently freed first. The children of a node are listed by slot number, which
is the order in which they were added as long as no slot is used a second time.

Nodes are found by name through `owners`, which points at the slot filled last under that name.
Removing a node takes its name out of `owners`, even where another slot owns it.
-/

namespace SceneCompiler

/-- The number of a slot. -/
abbrev SlotIndex := Nat

/-- A filled slot. The children are in increasing order. -/
structure Slot where
  node : SceneNode
  parent : Option SlotIndex
  children : List SlotIndex

/-- A forest of scene nodes with its variables and the current selection. -/
structure SceneGraph where
  slots : Std.ExtTreeMap SlotIndex Slot := ∅
  /-- The freed slots, the most recently freed first. -/
  free : List SlotIndex := []
  /-- The slots of the top-level nodes, in the order in which they were added. -/
  roots : List SlotIndex := []
  owners : Std.ExtTreeMap NodeId SlotIndex := ∅
  variableTable : Std.ExtTreeMap VariableId Variable := ∅
  selection : List NodeId := []

instance : Inhabited SceneGraph := ⟨{}⟩

namespace SceneGraph

/-! ### Looking up -/

def nodeAt? (g : SceneGraph) (i : SlotIndex) : Option SceneNode :=
  g.slots[i]?.map (·.node)

def indexOf? (g : SceneGraph) (id : NodeId) : Option SlotIndex :=
  g.owners[id]?

/-- The node that a name resolves to. -/
def find? (g : SceneGraph) (id : NodeId) : Option SceneNode :=
  (g.indexOf? id).bind g.nodeAt?

def parent? (g : SceneGraph) (i : SlotIndex) : Option SlotIndex :=
  g.slots[i]?.bind (·.parent)

/-- The slots of the children, in increasing order. -/
def children (g : SceneGraph) (i : SlotIndex) : List SlotIndex :=
  (g.slots[i]?.map (·.children)).getD []

def idsAt (g : SceneGraph) (slots : List SlotIndex) : List NodeId :=
  slots.filterMap fun i => (g.nodeAt? i).map (·.id)

/-- The names of the children; none if the name does not resolve. -/
def childIds (g : SceneGraph) (id : NodeId) : List NodeId :=
  match g.indexOf? id with
  | some i => g.idsAt (g.children i)
  | none => []

def rootIds (g : SceneGraph) : List NodeId :=
  g.idsAt g.roots

/-! ### Visibility -/

/-- A node and its ancestors, from the inside out; `fuel` bounds their count. -/
def lineage (g : SceneGraph) : Nat → SlotIndex → List SlotIndex
  | 0, _ => []
  | fuel + 1, i =>
    i :: match g.parent? i with
      | some p => g.lineage fuel p
      | none => []

/-- The node and all of its ancestors are visible. -/
def isEffectivelyVisible (g : SceneGraph) (id : NodeId) : Bool :=
  match g.indexOf? id with
  | some i => (g.lineage g.slots.size i).all fun j => (g.nodeAt? j).any (·.visible)
  | none => false

/-- The name resolves to a node that is visible by its own flag. -/
def isVisible (g : SceneGraph) (id : NodeId) : Bool :=
  (g.find? id).any (·.visible)

/-- The names of the children that are visible by their own flag. -/
def visibleChildIds (g : SceneGraph) (id : NodeId) : List NodeId :=
  (g.childIds id).filter g.isVisible

/-! ### Adding -/

/-- The slot that the next node goes into. -/
def nextIndex (g : SceneGraph) : SlotIndex :=
  match g.free with
  | i :: _ => i
  | [] => g.slots.size

/-- Puts a number into an increasing list. -/
def insertIndex (i : SlotIndex) : List SlotIndex → List SlotIndex
  | [] => [i]
  | j :: rest => if i < j then i :: j :: rest else j :: insertIndex i rest

def fill (g : SceneGraph) (parent : Option SlotIndex) (node : SceneNode) : SceneGraph :=
  { g with
    slots := g.slots.insert g.nextIndex ⟨node, parent, []⟩
    free := g.free.tail
    owners := g.owners.insert node.id g.nextIndex }

/-- Lists a slot among the children of another. -/
def link (g : SceneGraph) (parent child : SlotIndex) : SceneGraph :=
  { g with
    slots := g.slots.modify parent fun s => { s with children := insertIndex child s.children } }

/-- Adds a top-level node; its slot is `g.nextIndex`. -/
def addRoot (g : SceneGraph) (node : SceneNode) : SceneGraph :=
  { g.fill none node with roots := g.roots ++ [g.nextIndex] }

/-- Adds a node under a filled slot; its slot is `g.nextIndex`. -/
def addNode (g : SceneGraph) (parent : SlotIndex) (node : SceneNode) : SceneGraph :=
  (g.link parent g.nextIndex).fill (some parent) node

/-! ### Removing -/

/-- The slots of a subtree, each after its children; `fuel` bounds the height. -/
def subtree (g : SceneGraph) : Nat → SlotIndex → List SlotIndex
  | 0, _ => []
  | fuel + 1, i => (g.children i).flatMap (g.subtree fuel) ++ [i]

/-- Frees one slot and forgets the name of its node. -/
def release (g : SceneGraph) (i : SlotIndex) : SceneGraph :=
  match g.slots[i]? with
  | none => g
  | some s =>
    -- The parent loses the child before the slot is emptied.
    let slots := match s.parent with
      | some p => g.slots.modify p fun t => { t with children := t.children.erase i }
      | none => g.slots
    { g with
      slots := slots.erase i
      free := i :: g.free
      roots := g.roots.erase i
      owners := g.owners.erase s.node.id }

/-- Removes a node and its whole subtree, children first. -/
def removeNode (g : SceneGraph) (i : SlotIndex) : SceneGraph :=
  (g.subtree g.slots.size i).foldl release g

/-- Removes the node that a name resolves to, with its subtree. -/
def remove (g : SceneGraph) (id : NodeId) : SceneGraph :=
  match g.indexOf? id with
  | some i => g.removeNode i
  | none => g

/-! ### Variables and selection -/

/-- Adds a variable or replaces the one of the same name. -/
def defineVariable (g : SceneGraph) (v : Variable) : SceneGraph :=
  { g with variableTable := g.variableTable.insert v.id v }

def select (g : SceneGraph) (ids : List NodeId) : SceneGraph :=
  { g with selection := ids }

end SceneGraph

end SceneCompiler
