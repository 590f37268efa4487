import SceneCompiler.Link.Domain
import SceneCompiler.Session.Export
/-!
# Pictures, favicons and styles of a compilation

What a compilation collects from the collaborators of a session before it writes code: the style
declarations of the nodes, their exported pictures, and the icons of links.
-/

namespace SceneCompiler

/-! ### Pictures -/

/-- The exported pictures of a plan, by node, in the order of their export. -/
structure Pictures where
  vectors : List (NodeId × ExportedAsset) := []
  images : List (NodeId × ExportedAsset) := []

namespace Pictures

def references (p : Pictures) : Std.ExtTreeMap NodeId AssetReference :=
  (p.vectors ++ p.images).foldl (fun table (id, asset) => table.insert id asset.reference) ∅

def descriptors (p : Pictures) : List AssetDescriptor :=
  (p.vectors ++ p.images).flatMap fun (_, asset) => asset.descriptors

/-- Shows an image behind the children of its node, if it has any. -/
def setBackground (t : VisibleTree) (styles : StyleMap) (id : NodeId) (asset : ExportedAsset) :
    StyleMap :=
  match asset.reference with
  | .url address =>
    if (t.childrenOf id).isEmpty then styles
    else
      let styles := StyleMap.setValue styles id "background-image" ("url(\"" ++ address ++ "\")")
      StyleMap.setDefault styles id "background-size" "cover"
  | .inlined _ => styles

/-- Shows the images behind the children of their nodes. -/
def setBackgrounds (t : VisibleTree) (styles : StyleMap) (p : Pictures) : StyleMap :=
  p.images.foldl (fun styles (id, asset) => setBackground t styles id asset) styles

end Pictures

namespace Session

variable {m : Type → Type} [Monad m]

/-! ### Styles -/

/-- The declarations of a node: those of the host, or else those that the scene has. -/
def declarations (s : Session m) (g : SceneGraph) (id : NodeId) : m Declarations := do
  match ← s.styleSnapshot id with
  | .ok d => return d
  | .error _ => return ((g.find? id).map (·.style)).getD ∅

def collectStyles (s : Session m) (g : SceneGraph) (t : VisibleTree) : m StyleMap :=
  t.order.foldlM (fun styles id => return styles.insert id (← s.declarations g id)) ∅

/-! ### Pictures -/

/-- Exports the vector picture of a node in a tree. -/
def vectorOf (s : Session m) (t : VisibleTree) (options : CompileOptions) (id : NodeId) :
    CacheM m (Option (NodeId × ExportedAsset)) := do
  match t.find? id with
  | none => return none
  | some n => return (← s.exportVector id n.bounds options.unit).map (id, ·)

def imagesOf (s : Session m) (g : SceneGraph) (t : VisibleTree) (options : CompileOptions)
    (id : NodeId) : CacheM m (Option (NodeId × ExportedAsset)) := do
  match t.find? id, g.find? id with
  | some _, some n => return some (id, ← s.exportImages n options)
  | _, _ => return none

/-- Exports the pictures of a plan: the vector pictures first. -/
def exportPictures (s : Session m) (g : SceneGraph) (t : VisibleTree) (plan : AssetPlan)
    (options : CompileOptions) : CacheM m Pictures := do
  let vectors ← plan.vectorRoots.mapM (s.vectorOf t options)
  let images ← plan.imageNodes.mapM (s.imagesOf g t options)
  return { vectors := vectors.reduceOption, images := images.reduceOption }

/-! ### Texts -/

/-- Marks the link of a run with the favicon of its domain. -/
def markLink (s : Session m) (r : TextRun) : CacheM m TextRun := do
  match r.link.bind linkDomain with
  | none => return r
  | some domain =>
    match ← s.favicon domain with
    | some icon => return r.withIcon icon
    | none => return r

/-- The text of a node in a tree, if its element is one for texts. -/
def textContent? (g : SceneGraph) (t : VisibleTree) (id : NodeId) : Option TextContent := do
  let n ← t.find? id
  if n.tag ≠ .p ∧ n.tag ≠ .span then none
  (← g.find? n.id).text

def collectTexts (s : Session m) (g : SceneGraph) (t : VisibleTree) :
    CacheM m (Std.ExtTreeMap NodeId (List TextBlock)) :=
  t.order.foldlM (fun texts id => do
    match textContent? g t id with
    | some content => return texts.insert id (← content.blocks.mapM (TextBlock.mapRuns s.markLink))
    | none => return texts) ∅

end Session

end SceneCompiler
