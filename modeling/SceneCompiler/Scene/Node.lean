import SceneCompiler.Json.Basic
import SceneCompiler.Number.Decimal
import SceneCompiler.Scene.Id
/-!
# Scene nodes

The records of a design scene: colours, boxes, paints, component and layout data, styled text,
variables, and the node that carries them.
-/

namespace SceneCompiler

/-! ### Colour and geometry -/

/-- A colour with channels from 0 to 1. -/
structure Color where
  red : Float32
  green : Float32
  blue : Float32
  alpha : Float32

namespace Color

/-- A channel in 256 steps: clamped, scaled, and rounded half up. NaN counts as zero. -/
def step (channel : Float32) : Nat :=
  let clamped := if channel < 0 then 0 else if 1 < channel then 1 else channel
  match Exact.ofSingle? (clamped * 255) with
  | some e => e.rounded.mantissa
  | none => 0

def hexPair (n : Nat) : List Char :=
  let digits := (Nat.toDigits 16 n).map Char.toUpper
  List.replicate (2 - digits.length) '0' ++ digits

/-- The text `#RRGGBB`, with the alpha channel behind it unless it is full. -/
def hex (c : Color) : String :=
  let alpha := step c.alpha
  String.ofList ('#' :: (hexPair (step c.red) ++ hexPair (step c.green) ++ hexPair (step c.blue) ++
    (if alpha = 255 then [] else hexPair alpha)))

end Color

/-- An axis-aligned box in canvas coordinates. -/
structure Box where
  x : Float32 := 0
  y : Float32 := 0
  width : Float32 := 0
  height : Float32 := 0
deriving Inhabited

namespace Box

/-- The interiors of two boxes meet; touching edges do not count. -/
def intersects (a b : Box) : Bool :=
  a.x < b.x + b.width && b.x < a.x + a.width && a.y < b.y + b.height && b.y < a.y + a.height

/-- Rounds every component to a count of decimal places. -/
def rounded (b : Box) (decimals : Int) : Box where
  x := roundTo b.x decimals
  y := roundTo b.y decimals
  width := roundTo b.width decimals
  height := roundTo b.height decimals

end Box

/-! ### Paint -/

/-- One colour of a gradient and its place from 0 to 1. -/
structure GradientStop where
  offset : Float32
  color : Color

/-- A fill or stroke. An image without hash has no bytes to fetch. -/
inductive Paint where
  | solid (color : Color) (visible : Bool)
  | gradient (stops : List GradientStop) (visible : Bool)
  | image (hash : Option String) (visible : Bool)

namespace Paint

def isVisible : Paint → Bool
  | solid _ v => v
  | gradient _ v => v
  | image _ v => v

def isImage : Paint → Bool
  | image _ _ => true
  | _ => false

/-- The hash of an image that is shown and has bytes. -/
def usableHash? : Paint → Option String
  | image hash true => hash
  | _ => none

end Paint

/-! ### Node types -/

/-- The types of scene nodes. -/
inductive NodeType where
  | frame
  | group
  | canvasSection
  | component
  | componentSet
  | componentInstance
  | text
  | rectangle
  | ellipse
  | vector
  | line
  | polygon
  | star
  | booleanOperation
  | slice
deriving DecidableEq, Repr

namespace NodeType

/-- The name of a type in scene documents and outlines. -/
def name : NodeType → String
  | frame => "FRAME"
  | group => "GROUP"
  | canvasSection => "SECTION"
  | component => "COMPONENT"
  | componentSet => "COMPONENT_SET"
  | componentInstance => "INSTANCE"
  | text => "TEXT"
  | rectangle => "RECTANGLE"
  | ellipse => "ELLIPSE"
  | vector => "VECTOR"
  | line => "LINE"
  | polygon => "POLYGON"
  | star => "STAR"
  | booleanOperation => "BOOLEAN_OPERATION"
  | slice => "SLICE"

def all : List NodeType :=
  [frame, group, canvasSection, component, componentSet, componentInstance, text, rectangle,
    ellipse, vector, line, polygon, star, booleanOperation, slice]

/-- Types that hold children. -/
def isContainer : NodeType → Bool
  | frame | group | canvasSection | component | componentSet | componentInstance => true
  | _ => false

/-- Types that are drawn as paths. -/
def isVectorGeometry : NodeType → Bool
  | vector | line | polygon | star | ellipse | booleanOperation => true
  | _ => false

end NodeType

/-! ### Components -/

/-- The kinds of component properties. -/
inductive PropertyKind where
  | variant
  | boolean
  | text
  | instanceSwap
deriving DecidableEq

/-- The value of a component property. -/
inductive PropertyValue where
  | flag (b : Bool)
  | text (s : String)
deriving DecidableEq

/-- A property of a component; its name may carry a suffix that starts with a number sign. -/
structure ComponentProperty where
  name : String
  kind : PropertyKind
  value : PropertyValue
deriving DecidableEq

/-- What an instance or a variant says about its main component. -/
structure ComponentInfo where
  name : String
  /-- The component set that owns a variant. -/
  setName : Option String := none
  properties : List ComponentProperty := []
deriving DecidableEq

/-! ### Layout -/

/-- The axis along which a layout places its children. -/
inductive LayoutDirection where
  | horizontal
  | vertical
deriving DecidableEq, Repr

/-- An automatic layout. -/
structure AutoLayout where
  direction : LayoutDirection := .horizontal
  itemSpacing : Float32 := 0
  wrap : Bool := false

/-! ### Text -/

/-- Lines drawn along a text. -/
inductive TextDecoration where
  | none
  | underline
  | strikethrough
deriving DecidableEq

/-- The list that a line of text belongs to. -/
inductive ListType where
  | none
  | ordered
  | unordered
deriving DecidableEq

/-- A change of letter case. -/
inductive TextCase where
  | asTyped
  | upper
  | lower
  | title
deriving DecidableEq

/-- Characters that share one set of text properties. -/
structure StyledSegment where
  characters : String
  fontFamily : String := "Inter"
  fontStyle : String := ""
  fontWeight : Nat := 400
  fontSize : Float32 := 14
  textDecoration : TextDecoration := .none
  fill : Option Color := none
  letterSpacing : Option Float32 := none
  lineHeight : Option Float32 := none
  textCase : Option TextCase := none
  textAlign : Option String := none
  hyperlink : Option String := none
  listType : ListType := .none
  indentation : Nat := 0
  listSpacing : Float32 := 0
  paragraphSpacing : Float32 := 0

/-- The name of the font style speaks of italic or oblique letters. -/
def StyledSegment.isItalic (s : StyledSegment) : Bool :=
  let style := s.fontStyle.toList.map Char.toLower
  containsWord "italic".toList style || containsWord "oblique".toList style

/-- The text of a node. -/
structure TextContent where
  segments : List StyledSegment

/-! ### Variables -/

/-- The types of design variables. -/
inductive VariableType where
  | color
  | float
  | string
  | boolean
deriving DecidableEq

/-- The value of a variable in one mode: a literal, or another variable. -/
inductive VariableValue where
  | color (c : Color)
  | float (x : Float32)
  | string (s : String)
  | boolean (b : Bool)
  | alias (id : VariableId)

/-- A design variable. -/
structure Variable where
  id : VariableId
  /-- The display name, for instance `Colors/Primary 500`. -/
  name : String
  collection : String := ""
  /-- How code refers to the variable, for instance `var(--color-primary)`. -/
  codeSyntax : Option String := none
  resolvedType : VariableType := .color
  defaultMode : String
  /-- Values by mode, in the order of the names of the modes. -/
  valuesByMode : Std.ExtTreeMap String VariableValue

/-! ### Nodes -/

/-- One node of a scene, without its children. -/
structure SceneNode where
  id : NodeId
  type : NodeType
  name : String := ""
  visible : Bool := true
  bounds : Box := {}
  renderBounds : Option Box := none
  fills : List Paint := []
  strokes : List Paint := []
  /-- A mask clips the siblings after it and shows no geometry of its own. -/
  isMask : Bool := false
  component : Option ComponentInfo := none
  layout : Option AutoLayout := none
  inferredLayout : Option AutoLayout := none
  /-- Modes set on this node, by collection. -/
  variableModes : TextMap := ∅
  boundVariables : List VariableId := []
  style : TextMap := ∅
  text : Option TextContent := none

namespace SceneNode

def hasVisibleImageFill (n : SceneNode) : Bool :=
  n.fills.any fun p => p.isImage && p.isVisible

/-- The hashes of the image fills that are shown and have bytes. -/
def usableImageHashes (n : SceneNode) : List String :=
  n.fills.filterMap Paint.usableHash?

end SceneNode

end SceneCompiler
