import SceneCompiler.Asset.Plan
import SceneCompiler.Markup.Component
import SceneCompiler.RichText.Block
/-!
# From trees to markup

Every kept node of a visible tree becomes one element inside the element of its parent, except that
the nodes below the root of a vector picture are part of that picture. Texts become paragraphs and
lists with an element for each mark of a run.
-/

namespace SceneCompiler

/-- How markup refers to a picture: by its address, or by holding its markup. -/
inductive AssetReference where
  | url (address : String)
  | inlined (markup : String)
deriving DecidableEq

/-- What markup is made from. -/
structure MarkupSource where
  tree : VisibleTree
  classes : Std.ExtTreeMap NodeId String
  plan : AssetPlan
  assets : Std.ExtTreeMap NodeId AssetReference
  texts : Std.ExtTreeMap NodeId (List TextBlock)

/-- The attribute of a run that holds the icon of its link. -/
def faviconAttribute : String := "favicon"

def TextRun.withIcon (r : TextRun) (icon : String) : TextRun :=
  { r with attributes := r.attributes.insert faviconAttribute icon }

namespace ComponentNode

def plain (tag : String) (children : List ComponentNode) : ComponentNode :=
  .element tag ∅ children none

/-! ### Runs -/

/-- Puts a node into an element if a mark is set. -/
def wrapIf (mark : Bool) (tag : String) (inner : ComponentNode) : ComponentNode :=
  if mark then plain tag [inner] else inner

/-- The attributes of a run that differ from those of its block, as declarations. -/
def runStyle (base : TextMap) (r : TextRun) : List String :=
  (r.attributes.toList.filter fun (name, value) =>
    name ≠ faviconAttribute ∧ base[name]? ≠ some value).map fun (name, value) =>
      name ++ ": " ++ value

/-- The node of a run: its text inside an element for each mark, inside a span for attributes of its
own, inside its link. -/
def ofRun (base : TextMap) (r : TextRun) : ComponentNode :=
  let marked := wrapIf r.marks.bold "strong" (wrapIf r.marks.italic "em"
    (wrapIf r.marks.underline "u" (wrapIf r.marks.strike "s" (wrapIf r.marks.code "code"
      (.text r.text)))))
  let style := runStyle base r
  let styled :=
    if style.isEmpty || r.isBlank then marked
    else
      .element "span" ((∅ : TextMap).insert "style" (String.intercalate "; " style)) [marked] none
  match r.link with
  | none => styled
  | some address =>
    let attributes := (∅ : TextMap).insert "href" address
    .element "a" (match r.attributes[faviconAttribute]? with
      | some icon => attributes.insert "data-favicon" icon
      | none => attributes) [styled] none

/-! ### Blocks -/

def ofLine (base : TextMap) (line : TextLine) : List ComponentNode :=
  line.runs.map (ofRun base)

/-- The nodes of a paragraph, with a break between its lines. -/
def ofParagraph (base : TextMap) (lines : List TextLine) : List ComponentNode :=
  List.intercalate [plain "br" []] (lines.map (ofLine base))

def ofBlock (base : TextMap) (b : TextBlock) : ComponentNode :=
  let items := b.lines.map fun line => plain "li" (ofLine base line)
  match b.kind with
  | .none => plain "p" (ofParagraph base b.lines)
  | .ordered => plain "ol" items
  | .unordered => plain "ul" items

/-- The attributes of the first run that is not blank. -/
def baseAttributes (blocks : List TextBlock) : TextMap :=
  let runs := blocks.flatMap fun b => b.lines.flatMap (·.runs)
  ((runs.find? fun r => !r.isBlank).map (·.attributes)).getD ∅

/-- The tag and the children of the element for a text: a single paragraph is an element of the
given tag, and all else is a division with an element for each block. -/
def ofBlocks (tag : Tag) (blocks : List TextBlock) : String × List ComponentNode :=
  let base := baseAttributes blocks
  match blocks with
  | [] => (tag.name, [])
  | [⟨.none, lines⟩] => (tag.name, ofParagraph base lines)
  | _ => ("div", blocks.map (ofBlock base))

end ComponentNode

namespace MarkupSource

open ComponentNode

/-! ### Elements of nodes -/

def pictureElement (m : MarkupSource) (n : VisibleNode) : ComponentNode :=
  let attributes := (∅ : TextMap).insert "class" (m.classes.getD n.id "")
  match m.assets[n.id]? with
  | some (.url address) =>
    .element "img" ((attributes.insert "src" address).insert "alt" n.name) [] none
  | some (.inlined markup) => .element "div" attributes [] (some markup)
  | none => .element "div" attributes [] none

/-- The tag, attributes and own children of the element of any other node. -/
def nodeContent (m : MarkupSource) (n : VisibleNode) : String × TextMap × List ComponentNode :=
  let container := ("div", ∅, [])
  match n.tag with
  | .img =>
    if n.children.isEmpty then
      let attributes := (∅ : TextMap).insert "alt" n.name
      ("img", match m.assets[n.id]? with
        | some (.url address) => attributes.insert "src" address
        | _ => attributes, [])
    else container
  | .p | .span =>
    let (tag, children) := ofBlocks n.tag (m.texts.getD n.id [])
    (tag, ∅, children)
  | .div | .svg => container

/-- Adds the class and the hints of a node to its attributes. -/
def nodeAttributes (m : MarkupSource) (n : VisibleNode) (attributes : TextMap) : TextMap :=
  n.hints.toList.foldl (fun attributes (key, hint) => attributes.insert ("data-" ++ key) hint)
    (attributes.insert "class" (m.classes.getD n.id ""))

/-- The elements of some nodes and all below them; nodes that are part of a picture, or not in the
tree, have none. `fuel` bounds the height. -/
def elements (m : MarkupSource) : Nat → List NodeId → List ComponentNode
  | 0, _ => []
  | fuel + 1, ids =>
    ids.filterMap fun id =>
      if m.plan.isSkipped id then none
      else (m.tree.find? id).map fun n =>
        if m.plan.isVectorRoot id then m.pictureElement n
        else
          let (tag, attributes, own) := m.nodeContent n
          .element tag (m.nodeAttributes n attributes) (own ++ m.elements fuel n.children) none

/-- The component of a tree, named for its first root. -/
def component (m : MarkupSource) : ComponentTree where
  name := ((m.tree.rootIds.head?.bind m.tree.find?).map (·.name)).getD ""
  roots := m.elements m.tree.nodes.size m.tree.rootIds

end MarkupSource

end SceneCompiler
