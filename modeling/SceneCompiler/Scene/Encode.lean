import SceneCompiler.Scene.Graph
/-!
# Writing scene records

The JSON form of each record of a scene, which is what its reader takes. Every field is written,
also where it has its default.
-/

namespace SceneCompiler

/-! ### Names -/

def NodeId.toJson (id : NodeId) : Json :=
  .str id.text

def VariableId.toJson (id : VariableId) : Json :=
  .str id.text

def NodeId.listToJson (ids : List NodeId) : Json :=
  .ofList NodeId.toJson ids

/-! ### Colour, geometry and paint -/

def Color.toJson (c : Color) : Json :=
  .obj [("a", .ofSingle c.alpha), ("b", .ofSingle c.blue), ("g", .ofSingle c.green),
    ("r", .ofSingle c.red)]

def Box.toJson (b : Box) : Json :=
  .obj [("height", .ofSingle b.height), ("width", .ofSingle b.width), ("x", .ofSingle b.x),
    ("y", .ofSingle b.y)]

def GradientStop.toJson (s : GradientStop) : Json :=
  .obj [("color", s.color.toJson), ("offset", .ofSingle s.offset)]

def Paint.toJson : Paint → Json
  | .solid color visible =>
    .obj [("color", color.toJson), ("type", .str "SOLID"), ("visible", .bool visible)]
  | .gradient stops visible =>
    .obj [("stops", .ofList GradientStop.toJson stops), ("type", .str "GRADIENT"),
      ("visible", .bool visible)]
  | .image hash visible =>
    .obj [("image_hash", .ofOption .str hash), ("type", .str "IMAGE"), ("visible", .bool visible)]

/-! ### Components and layout -/

def PropertyKind.name : PropertyKind → String
  | .variant => "VARIANT"
  | .boolean => "BOOLEAN"
  | .text => "TEXT"
  | .instanceSwap => "INSTANCE_SWAP"

/-- The JSON form of the value of a component property. -/
def PropertyValue.toJson : PropertyValue → Json
  | .flag b => .bool b
  | .text s => .str s

def ComponentProperty.toJson (p : ComponentProperty) : Json :=
  .obj [("kind", .str p.kind.name), ("name", .str p.name), ("value", p.value.toJson)]

def ComponentInfo.toJson (c : ComponentInfo) : Json :=
  .obj [("name", .str c.name), ("properties", .ofList ComponentProperty.toJson c.properties),
    ("set_name", .ofOption .str c.setName)]

def LayoutDirection.name : LayoutDirection → String
  | .horizontal => "HORIZONTAL"
  | .vertical => "VERTICAL"

def AutoLayout.toJson (l : AutoLayout) : Json :=
  .obj [("direction", .str l.direction.name), ("item_spacing", .ofSingle l.itemSpacing),
    ("wrap", .bool l.wrap)]

/-! ### Text -/

def TextDecoration.name : TextDecoration → String
  | .none => "NONE"
  | .underline => "UNDERLINE"
  | .strikethrough => "STRIKETHROUGH"

def ListType.name : ListType → String
  | .none => "NONE"
  | .ordered => "ORDERED"
  | .unordered => "UNORDERED"

def TextCase.name : TextCase → String
  | .asTyped => "ORIGINAL"
  | .upper => "UPPER"
  | .lower => "LOWER"
  | .title => "TITLE"

def StyledSegment.toJson (s : StyledSegment) : Json :=
  .obj [("characters", .str s.characters), ("fill", .ofOption Color.toJson s.fill),
    ("font_family", .str s.fontFamily), ("font_size", .ofSingle s.fontSize),
    ("font_style", .str s.fontStyle), ("font_weight", .ofNat s.fontWeight),
    ("hyperlink", .ofOption .str s.hyperlink), ("indentation", .ofNat s.indentation),
    ("letter_spacing", .ofOption .ofSingle s.letterSpacing),
    ("line_height", .ofOption .ofSingle s.lineHeight), ("list_spacing", .ofSingle s.listSpacing),
    ("list_type", .str s.listType.name), ("paragraph_spacing", .ofSingle s.paragraphSpacing),
    ("text_align", .ofOption .str s.textAlign),
    ("text_case", .ofOption (fun c => .str c.name) s.textCase),
    ("text_decoration", .str s.textDecoration.name)]

def TextContent.toJson (t : TextContent) : Json :=
  .obj [("segments", .ofList StyledSegment.toJson t.segments)]

/-! ### Variables -/

def VariableType.name : VariableType → String
  | .color => "COLOR"
  | .float => "FLOAT"
  | .string => "STRING"
  | .boolean => "BOOLEAN"

def VariableValue.toJson : VariableValue → Json
  | .color c => .obj [("kind", .str "color"), ("value", c.toJson)]
  | .float x => .obj [("kind", .str "float"), ("value", .ofSingle x)]
  | .string s => .obj [("kind", .str "str"), ("value", .str s)]
  | .boolean b => .obj [("kind", .str "bool"), ("value", .bool b)]
  | .alias id => .obj [("kind", .str "alias"), ("value", id.toJson)]

def Variable.toJson (v : Variable) : Json :=
  .obj [("code_syntax", .ofOption .str v.codeSyntax), ("collection", .str v.collection),
    ("default_mode", .str v.defaultMode), ("id", v.id.toJson), ("name", .str v.name),
    ("resolved_type", .str v.resolvedType.name),
    ("values_by_mode", .obj (v.valuesByMode.toList.map fun (mode, x) => (mode, x.toJson)))]

/-! ### Nodes and scenes -/

def SceneNode.toJson (n : SceneNode) : Json :=
  .obj [("bound_variables", .ofList VariableId.toJson n.boundVariables),
    ("bounds", n.bounds.toJson), ("component", .ofOption ComponentInfo.toJson n.component),
    ("fills", .ofList Paint.toJson n.fills), ("id", n.id.toJson),
    ("inferred_layout", .ofOption AutoLayout.toJson n.inferredLayout), ("is_mask", .bool n.isMask),
    ("layout", .ofOption AutoLayout.toJson n.layout), ("name", .str n.name),
    ("render_bounds", .ofOption Box.toJson n.renderBounds),
    ("strokes", .ofList Paint.toJson n.strokes), ("style", .ofTextMap n.style),
    ("text", .ofOption TextContent.toJson n.text), ("type", .str n.type.name),
    ("variable_modes", .ofTextMap n.variableModes), ("visible", .bool n.visible)]

namespace SceneGraph

/-- The parent of the node that a name resolves to. -/
def parentId? (g : SceneGraph) (id : NodeId) : Option NodeId :=
  (((g.indexOf? id).bind g.parent?).bind g.nodeAt?).map (·.id)

/-- What a scene says about the node that a name resolves to: the node, its place, and whether it is
seen. -/
def placeToJson (g : SceneGraph) (id : NodeId) : Json :=
  .obj [("children", NodeId.listToJson (g.childIds id)),
    ("node", .ofOption SceneNode.toJson (g.find? id)),
    ("parent", .ofOption NodeId.toJson (g.parentId? id)),
    ("visible", .bool (g.isEffectivelyVisible id))]

/-- The JSON form of a scene, with an entry for every name that resolves. -/
def toJson (g : SceneGraph) : Json :=
  .obj [("nodes", .obj (g.owners.toList.map fun (id, _) => (id.text, g.placeToJson id))),
    ("roots", NodeId.listToJson g.rootIds), ("selection", NodeId.listToJson g.selection),
    ("variables", .obj (g.variableTable.toList.map fun (id, v) => (id.text, v.toJson)))]

end SceneGraph

end SceneCompiler
