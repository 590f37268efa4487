import SceneCompiler.Asset.Plan
import SceneCompiler.Scene.Decode
import SceneCompiler.Scene.Encode
/-!
# Trees and plans in JSON

The JSON forms of visible trees and of asset plans. Plans can be read too.
-/

namespace SceneCompiler

def AssetKind.name : AssetKind → String
  | .vector => "vector"
  | .image => "image"

/-- The JSON form of a node of a tree. Without hints the hints are null. -/
def VisibleNode.toJson (n : VisibleNode) : Json :=
  .obj [("asset_kind", .ofOption (fun k => .str k.name) n.assetKind),
    ("auto_layout", .ofOption AutoLayout.toJson n.autoLayout), ("bounds", n.bounds.toJson),
    ("children", NodeId.listToJson n.children),
    ("data_hint", if n.hints.isEmpty then .null else .ofTextMap n.hints), ("depth", .ofNat n.depth),
    ("id", n.id.toJson), ("index", .ofNat n.index), ("name", .str n.name),
    ("render_bounds", .ofOption Box.toJson n.renderBounds), ("tag", .str n.tag.name),
    ("type", .str n.type.name), ("visible", .bool n.visible)]

namespace VisibleTree

def statsToJson (t : VisibleTree) : Json :=
  .obj [("capped", .bool t.isCapped), ("capped_node_ids", NodeId.listToJson t.cappedIds),
    ("depth_limit", .ofOption .ofNat t.depthLimit), ("max_depth", .ofNat t.maxDepth),
    ("total_nodes", .ofNat t.order.length)]

def toJson (t : VisibleTree) : Json :=
  .obj [("nodes", .obj (t.nodes.toList.map fun (id, n) => (id.text, n.toJson))),
    ("order", NodeId.listToJson t.order), ("root_ids", NodeId.listToJson t.rootIds),
    ("stats", t.statsToJson)]

end VisibleTree

def AssetPlan.toJson (p : AssetPlan) : Json :=
  .obj [("image_nodes", NodeId.listToJson p.imageNodes),
    ("skipped_ids", NodeId.listToJson p.skippedIds),
    ("vector_roots", NodeId.listToJson p.vectorRoots)]

/-- Reads a plan; parts that are not mentioned are empty. -/
def AssetPlan.ofJson? (j : Json) : Option AssetPlan := do
  let [vectorRoots, skippedIds, imageNodes] ←
    j.fields? ["vector_roots", "skipped_ids", "image_nodes"] | none
  return {
    vectorRoots := ← vectorRoots.withDefault? [] (Json.listOf? NodeId.ofJson?)
    skippedIds := ← skippedIds.withDefault? [] (Json.listOf? NodeId.ofJson?)
    imageNodes := ← imageNodes.withDefault? [] (Json.listOf? NodeId.ofJson?) }

end SceneCompiler
