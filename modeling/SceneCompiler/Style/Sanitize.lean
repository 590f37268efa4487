import SceneCompiler.Style.Basic
import SceneCompiler.Tree.Basic
/-!
# Corrections of the styles

Three passes over the nodes of a tree in pre-order. Negative gaps become negative margins; parents
of absolutely positioned children become containing blocks; overlapping positioned siblings get
ranks in paint order. A pass sets declarations and never removes one.
-/

namespace SceneCompiler.StyleMap

/-! ### Positions -/

/-- The position of a node, without white space around it. -/
def position? (styles : StyleMap) (id : NodeId) : Option String :=
  (value? styles id "position").map trimText

/-- The node takes part in the flow of its parent. -/
def isInFlow (styles : StyleMap) (id : NodeId) : Bool :=
  position? styles id ∉ [some "absolute", some "fixed"]

def isPositioned (styles : StyleMap) (id : NodeId) : Bool :=
  position? styles id ∈ [some "absolute", some "fixed", some "relative", some "sticky"]

/-! ### Negative gaps -/

/-- The margin that moves a child along the axis of a layout. -/
def leadingMargin : LayoutDirection → String
  | .horizontal => "margin-left"
  | .vertical => "margin-top"

/-- Turns the negative gap of one node into margins of its children in flow after the first. -/
def spreadGap (styles : StyleMap) (n : VisibleNode) : StyleMap :=
  match n.autoLayout with
  | none => styles
  | some layout =>
    let inFlow := n.children.filter (isInFlow styles)
    if 0 ≤ layout.itemSpacing ∨ inFlow.length < 2 then styles
    else
      let spacing := formatNumber layout.itemSpacing ++ "px"
      inFlow.tail.foldl
        (fun styles child => setValue styles child (leadingMargin layout.direction) spacing)
        (setValue styles n.id "gap" "0")

/-! ### Containing blocks -/

/-- Makes a node with an absolutely positioned child a containing block, if it is none. -/
def containChildren (styles : StyleMap) (n : VisibleNode) : StyleMap :=
  if n.children.any (fun c => position? styles c == some "absolute") ∧
      position? styles n.id ∈ [none, some "static"] then
    setValue styles n.id "position" "relative"
  else styles

/-! ### Stacking order -/

/-- Two nodes of a tree overlap where they are drawn. -/
def overlap (t : VisibleTree) (a b : NodeId) : Bool :=
  match t.find? a, t.find? b with
  | some m, some n =>
    (m.renderBounds.getD m.bounds).intersects (n.renderBounds.getD n.bounds)
  | _, _ => false

/-- Gives the positioned children that overlap another one their ranks in paint order, from one on.
Ranks that are there stay. -/
def rankChildren (t : VisibleTree) (styles : StyleMap) (n : VisibleNode) : StyleMap :=
  let positioned := n.children.filter (isPositioned styles)
  let overlapping := positioned.filter fun a => positioned.any fun b => a != b && overlap t a b
  overlapping.zipIdx.foldl
    (fun styles (child, rank) => setDefault styles child "z-index" (integerText (rank + 1))) styles

/-! ### The passes -/

/-- Runs a correction on every node of a tree in pre-order. -/
def overTree (t : VisibleTree) (correct : StyleMap → VisibleNode → StyleMap) (styles : StyleMap) :
    StyleMap :=
  (t.order.filterMap t.find?).foldl correct styles

/-- Replaces negative gaps by margins. -/
def compensateNegativeGap (t : VisibleTree) (styles : StyleMap) : StyleMap :=
  overTree t spreadGap styles

/-- Makes the parents of absolutely positioned nodes containing blocks. -/
def enforceRelativeParent (t : VisibleTree) (styles : StyleMap) : StyleMap :=
  overTree t containChildren styles

/-- Ranks overlapping positioned siblings. -/
def assignStackingOrder (t : VisibleTree) (styles : StyleMap) : StyleMap :=
  overTree t (rankChildren t) styles

def sanitize (t : VisibleTree) (styles : StyleMap) : StyleMap :=
  assignStackingOrder t (enforceRelativeParent t (compensateNegativeGap t styles))

end SceneCompiler.StyleMap
