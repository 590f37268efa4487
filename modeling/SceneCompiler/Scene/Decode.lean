import SceneCompiler.Json.Decode
import SceneCompiler.Json.Shape
import SceneCompiler.Scene.Node
/-!
# Reading scene records

Each record of a scene is read from its JSON form (see `Json.fields?`). Fields with defaults may be
left out; optional fields may be null. `reading` tells whether the value was set aside before.
-/

namespace SceneCompiler

open Json (Field Reading Shape)

def NodeId.ofJson? (j : Json) : Option NodeId :=
  j.text?.map .mk

def VariableId.ofJson? (j : Json) : Option VariableId :=
  j.text?.map .mk

/-- Reads a colour; without alpha it is full. -/
def Color.ofJson? (j : Json) : Option Color := do
  let [red, green, blue, alpha] ← j.fields? ["r", "g", "b", "a"] | none
  return {
    red := ← red.required? Json.single?
    green := ← green.required? Json.single?
    blue := ← blue.required? Json.single?
    alpha := ← alpha.withDefault? 1 Json.single? }

def Box.ofJson? (j : Json) : Option Box := do
  let [x, y, width, height] ← j.fields? ["x", "y", "width", "height"] | none
  return {
    x := ← x.required? Json.single?
    y := ← y.required? Json.single?
    width := ← width.required? Json.single?
    height := ← height.required? Json.single? }

def GradientStop.ofJson? (j : Json) : Option GradientStop := do
  let [offset, color] ← j.fields? ["offset", "color"] | none
  return { offset := ← offset.required? Json.single?, color := ← color.required? Color.ofJson? }

/-- Reads a paint, tagged with its type. -/
def Paint.ofJson? (reading : Reading) (j : Json) : Option Paint := do
  match ← j.tagged? reading "type" ["SOLID", "GRADIENT", "IMAGE"] with
  | ("SOLID", body) =>
    let [color, visible] ← body.fields? ["color", "visible"] | none
    return .solid (← color.required? Color.ofJson?) (← visible.withDefault? true Json.flag?)
  | ("GRADIENT", body) =>
    let [stops, visible] ← body.fields? ["stops", "visible"] | none
    return .gradient (← stops.required? (Json.listOf? GradientStop.ofJson?))
      (← visible.withDefault? true Json.flag?)
  | ("IMAGE", body) =>
    let [hash, visible] ← body.fields? ["image_hash", "visible"] | none
    return .image (← hash.optional? Json.text?) (← visible.withDefault? true Json.flag?)
  | _ => none

def NodeType.ofName? (name : String) : Option NodeType :=
  NodeType.all.find? (·.name = name)

def NodeType.ofJson? (reading : Reading) (j : Json) : Option NodeType :=
  j.choice? reading (NodeType.all.map fun t => (t.name, t))

def PropertyKind.ofJson? (reading : Reading) (j : Json) : Option PropertyKind :=
  j.choice? reading [("VARIANT", .variant), ("BOOLEAN", .boolean), ("TEXT", .text),
    ("INSTANCE_SWAP", .instanceSwap)]

def PropertyValue.ofJson? : Json → Option PropertyValue
  | .bool b => some (.flag b)
  | .str s => some (.text s)
  | _ => none

def ComponentProperty.ofJson? (reading : Reading) (j : Json) : Option ComponentProperty := do
  let [name, kind, value] ← j.fields? ["name", "kind", "value"] | none
  return {
    name := ← name.required? Json.text?
    kind := ← kind.required? (PropertyKind.ofJson? reading)
    value := ← value.required? PropertyValue.ofJson? }

def ComponentInfo.ofJson? (reading : Reading) (j : Json) : Option ComponentInfo := do
  let [name, setName, properties] ← j.fields? ["name", "set_name", "properties"] | none
  return {
    name := ← name.required? Json.text?
    setName := ← setName.optional? Json.text?
    properties := ← properties.withDefault? [] (Json.listOf? (ComponentProperty.ofJson? reading)) }

def LayoutDirection.ofJson? (reading : Reading) (j : Json) : Option LayoutDirection :=
  j.choice? reading [("HORIZONTAL", .horizontal), ("VERTICAL", .vertical)]

def AutoLayout.ofJson? (reading : Reading) (j : Json) : Option AutoLayout := do
  let [direction, itemSpacing, wrap] ← j.fields? ["direction", "item_spacing", "wrap"] | none
  return {
    direction := ← direction.withDefault? .horizontal (LayoutDirection.ofJson? reading)
    itemSpacing := ← itemSpacing.withDefault? 0 Json.single?
    wrap := ← wrap.withDefault? false Json.flag? }

def TextDecoration.ofJson? (reading : Reading) (j : Json) : Option TextDecoration :=
  j.choice? reading [("NONE", .none), ("UNDERLINE", .underline), ("STRIKETHROUGH", .strikethrough)]

def ListType.ofJson? (reading : Reading) (j : Json) : Option ListType :=
  j.choice? reading [("NONE", .none), ("ORDERED", .ordered), ("UNORDERED", .unordered)]

def TextCase.ofJson? (reading : Reading) (j : Json) : Option TextCase :=
  j.choice? reading
    [("ORIGINAL", .asTyped), ("UPPER", .upper), ("LOWER", .lower), ("TITLE", .title)]

def StyledSegment.ofJson? (reading : Reading) (j : Json) : Option StyledSegment := do
  let [characters, fontFamily, fontStyle, fontWeight, fontSize, textDecoration, fill,
      letterSpacing, lineHeight, textCase, textAlign, hyperlink, listType, indentation,
      listSpacing, paragraphSpacing] ←
    j.fields? ["characters", "font_family", "font_style", "font_weight", "font_size",
      "text_decoration", "fill", "letter_spacing", "line_height", "text_case", "text_align",
      "hyperlink", "list_type", "indentation", "list_spacing", "paragraph_spacing"] | none
  return {
    characters := ← characters.required? Json.text?
    fontFamily := ← fontFamily.withDefault? "Inter" Json.text?
    fontStyle := ← fontStyle.withDefault? "" Json.text?
    fontWeight := ← fontWeight.withDefault? 400 (Json.countBelow? UInt16.size)
    fontSize := ← fontSize.withDefault? 14 Json.single?
    textDecoration := ← textDecoration.withDefault? .none (TextDecoration.ofJson? reading)
    fill := ← fill.optional? Color.ofJson?
    letterSpacing := ← letterSpacing.optional? Json.single?
    lineHeight := ← lineHeight.optional? Json.single?
    textCase := ← textCase.optional? (TextCase.ofJson? reading)
    textAlign := ← textAlign.optional? Json.text?
    hyperlink := ← hyperlink.optional? Json.text?
    listType := ← listType.withDefault? .none (ListType.ofJson? reading)
    indentation := ← indentation.withDefault? 0 (Json.countBelow? UInt32.size)
    listSpacing := ← listSpacing.withDefault? 0 Json.single?
    paragraphSpacing := ← paragraphSpacing.withDefault? 0 Json.single? }

def TextContent.ofJson? (reading : Reading) (j : Json) : Option TextContent := do
  let [segments] ← j.fields? ["segments"] | none
  return { segments := ← segments.required? (Json.listOf? (StyledSegment.ofJson? reading)) }

def VariableType.ofJson? (j : Json) : Option VariableType :=
  j.choice? .direct
    [("COLOR", .color), ("FLOAT", .float), ("STRING", .string), ("BOOLEAN", .boolean)]

/-- The kinds of variable values. -/
inductive ValueKind where
  | color
  | float
  | string
  | boolean
  | alias

def ValueKind.ofJson? (j : Json) : Option ValueKind :=
  j.choice? .direct [("color", .color), ("float", .float), ("str", .string), ("bool", .boolean),
    ("alias", .alias)]

/-- Reads the value of a variable: a kind and the value of that kind, both required. -/
def VariableValue.ofJson? (j : Json) : Option VariableValue := do
  let [kind, value] ← j.fields? ["kind", "value"] | none
  match ← kind.required? ValueKind.ofJson? with
  | .color => return .color (← value.required? Color.ofJson?)
  | .float => return .float (← value.required? Json.single?)
  | .string => return .string (← value.required? Json.text?)
  | .boolean => return .boolean (← value.required? Json.flag?)
  | .alias => return .alias (← value.required? VariableId.ofJson?)

/-- What of the value of a variable is read in a text: of colours their channels. -/
def VariableValue.shape : Shape :=
  .tagged "kind" "value"
    (.record [("r", .whole), ("g", .whole), ("b", .whole), ("a", .whole)])

def Variable.shape : Shape :=
  .record [("id", .whole), ("name", .whole), ("collection", .whole), ("code_syntax", .whole),
    ("resolved_type", .whole), ("default_mode", .whole),
    ("values_by_mode", .members VariableValue.shape)]

def Variable.ofJson? (j : Json) : Option Variable := do
  let [id, name, collection, codeSyntax, resolvedType, defaultMode, valuesByMode] ←
    j.fields? ["id", "name", "collection", "code_syntax", "resolved_type", "default_mode",
      "values_by_mode"] | none
  return {
    id := ← id.required? VariableId.ofJson?
    name := ← name.required? Json.text?
    collection := ← collection.withDefault? "" Json.text?
    codeSyntax := ← codeSyntax.optional? Json.text?
    resolvedType := ← resolvedType.withDefault? .color VariableType.ofJson?
    defaultMode := ← defaultMode.required? Json.text?
    valuesByMode := ← valuesByMode.required? (Json.mapOf? VariableValue.ofJson?) }

def SceneNode.ofJson? (reading : Reading) (j : Json) : Option SceneNode := do
  let [id, type, name, visible, bounds, renderBounds, fills, strokes, isMask, component, layout,
      inferredLayout, variableModes, boundVariables, style, text] ←
    j.fields? ["id", "type", "name", "visible", "bounds", "render_bounds", "fills", "strokes",
      "is_mask", "component", "layout", "inferred_layout", "variable_modes", "bound_variables",
      "style", "text"] | none
  return {
    id := ← id.required? NodeId.ofJson?
    type := ← type.required? (NodeType.ofJson? reading)
    name := ← name.withDefault? "" Json.text?
    visible := ← visible.withDefault? true Json.flag?
    bounds := ← bounds.withDefault? {} Box.ofJson?
    renderBounds := ← renderBounds.optional? Box.ofJson?
    fills := ← fills.withDefault? [] (Json.listOf? (Paint.ofJson? reading))
    strokes := ← strokes.withDefault? [] (Json.listOf? (Paint.ofJson? reading))
    isMask := ← isMask.withDefault? false Json.flag?
    component := ← component.optional? (ComponentInfo.ofJson? reading)
    layout := ← layout.optional? (AutoLayout.ofJson? reading)
    inferredLayout := ← inferredLayout.optional? (AutoLayout.ofJson? reading)
    variableModes := ← variableModes.withDefault? ∅ Json.textMap?
    boundVariables := ← boundVariables.withDefault? [] (Json.listOf? VariableId.ofJson?)
    style := ← style.withDefault? ∅ Json.textMap?
    text := ← text.optional? (TextContent.ofJson? reading) }

end SceneCompiler
