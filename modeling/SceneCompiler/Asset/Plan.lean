import SceneCompiler.Tree.Basic
/-!
# Planning of assets

Which subtrees of a tree become one vector picture each, and which nodes are exported through their
image fills. The tree gives the structure, and the scene is asked again about every node, since
nodes may have gone since the tree was built; a missing node never makes a picture.
-/

namespace SceneCompiler

/-- The pictures of a tree. -/
structure AssetPlan where
  /-- The roots of vector pictures, in the order of the tree. -/
  vectorRoots : List NodeId := []
  /-- The nodes that are part of a vector picture below its root. -/
  skippedIds : List NodeId := []
  /-- The nodes exported through their image fills. -/
  imageNodes : List NodeId := []
deriving DecidableEq

namespace AssetPlan

def isVectorRoot (p : AssetPlan) (id : NodeId) : Bool :=
  p.vectorRoots.contains id

/-- The node is part of a vector picture below its root. -/
def isSkipped (p : AssetPlan) (id : NodeId) : Bool :=
  p.skippedIds.contains id

def appendNew (done new : List NodeId) : List NodeId :=
  new.foldl (fun done id => if done.contains id then done else done ++ [id]) done

end AssetPlan

/-- A group or a frame, as opposed to other containers. -/
def NodeType.isPlainContainer (t : NodeType) : Bool :=
  t = .group ∨ t = .frame

namespace SceneGraph

/-- The descendants of a node allow it to become one vector picture: apart from masks all are there,
show no image, and are paths or plain containers that kept their children. -/
def allowsPicture (g : SceneGraph) (t : VisibleTree) (id : NodeId) : Bool :=
  match g.find? id with
  | none => false
  | some n =>
    n.isMask || !n.hasVisibleImageFill &&
      (n.type.isVectorGeometry || n.type.isPlainContainer && !t.cappedIds.contains id)

def isDrawnPath (g : SceneGraph) (id : NodeId) : Bool :=
  (g.find? id).any fun n => !n.isMask && n.type.isVectorGeometry

/-- A plain container becomes one vector picture if its descendants allow it and one of them is
drawn. -/
def isPromotable (g : SceneGraph) (t : VisibleTree) (id : NodeId) : Bool :=
  match g.find? id with
  | none => false
  | some n =>
    n.type.isPlainContainer && !n.hasVisibleImageFill &&
      (t.descendants id).all (g.allowsPicture t) && (t.descendants id).any g.isDrawnPath

def planNode (g : SceneGraph) (t : VisibleTree) (p : AssetPlan) (id : NodeId) : AssetPlan :=
  match t.find? id, g.find? id with
  | some node, some n =>
    if p.isSkipped id then p
    else if (!t.cappedIds.contains id && g.isPromotable t id) ||
        (node.assetKind = some .vector && !n.isMask) then
      { p with
        vectorRoots := p.vectorRoots ++ [id]
        skippedIds := AssetPlan.appendNew p.skippedIds (t.descendants id) }
    else if node.assetKind = some .image then { p with imageNodes := p.imageNodes ++ [id] }
    else p
  | _, _ => p

def planAssets (g : SceneGraph) (t : VisibleTree) : AssetPlan :=
  t.order.foldl (g.planNode t) {}

end SceneGraph

end SceneCompiler
