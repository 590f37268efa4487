import SceneCompiler.Json.Decode
import SceneCompiler.Number.Decimal
/-!
# Options and limits

What a caller may choose: when large trees are cut off, in which unit lengths are written, and the
limits of the operations that answer with outlines and pictures. Every field has a default, so a
caller may send only some of them.
-/

namespace SceneCompiler

open Json (Field)

/-! ### Depth -/

/-- When a tree is cut off. Trees of at most `capThreshold` visible nodes are kept whole; larger
ones are cut at a depth that keeps them within `targetBudget` nodes. -/
structure DepthPolicy where
  capThreshold : Nat := 2000
  targetBudget : Nat := 400
deriving DecidableEq, Repr

def DepthPolicy.ofJson? (j : Json) : Option DepthPolicy := do
  let [capThreshold, targetBudget] ← j.fields? ["cap_threshold", "target_budget"] | none
  return {
    capThreshold := ← capThreshold.withDefault? 2000 Json.count?
    targetBudget := ← targetBudget.withDefault? 400 Json.count? }

/-! ### Lengths -/

/-- The unit of written lengths: pixels, or multiples of a base length in pixels. -/
inductive LengthUnit where
  | px
  | rem (base : Float32)

namespace LengthUnit

def ofJson? (j : Json) : Option LengthUnit := do
  match ← j.tagged? .direct "kind" ["px", "rem"] with
  | ("px", .arr (_ :: _)) => none
  | ("px", _) => return .px
  | ("rem", body) =>
    let [base] ← body.fields? ["base"] | none
    return .rem (← base.required? Json.single?)
  | _ => none

/-- A length of pixels in the unit. Multiples need a positive base. -/
def formatLength (unit : LengthUnit) (px : Float32) : String :=
  match unit with
  | .px => formatNumber px ++ "px"
  | .rem base => if 0 < base then formatNumber (px / base) ++ "rem" else formatNumber px ++ "px"

def toJson : LengthUnit → Json
  | px => .obj [("kind", .str "px")]
  | rem base => .obj [("base", .ofSingle base), ("kind", .str "rem")]

end LengthUnit

/-! ### Compilation -/

/-- The options of a compilation. -/
structure CompileOptions where
  /-- The scale of exported pictures, which also tells apart cached tokens and plugins. -/
  scale : Float32 := 1
  unit : LengthUnit := .px
  /-- The language of the component block when no hook chooses another. -/
  language : String := "html"
  /-- The largest size of a block in bytes; longer blocks are cut. -/
  maxCodeBytes : Nat := 200000
  depthPolicy : DepthPolicy := {}
  /-- The address under which placeholder pictures are found. -/
  placeholderBase : String := "https://placehold.co"
  /-- Whether to define the tokens that the styles refer to. -/
  emitTokens : Bool := true

def CompileOptions.ofJson? (j : Json) : Option CompileOptions := do
  let [scale, unit, language, maxCodeBytes, depthPolicy, placeholderBase, emitTokens] ←
    j.fields? ["scale", "unit", "language", "max_code_bytes", "depth_policy", "placeholder_base",
      "emit_tokens"] | none
  return {
    scale := ← scale.withDefault? 1 Json.single?
    unit := ← unit.withDefault? .px LengthUnit.ofJson?
    language := ← language.withDefault? "html" Json.text?
    maxCodeBytes := ← maxCodeBytes.withDefault? 200000 Json.count?
    depthPolicy := ← depthPolicy.withDefault? {} DepthPolicy.ofJson?
    placeholderBase := ← placeholderBase.withDefault? "https://placehold.co" Json.text?
    emitTokens := ← emitTokens.withDefault? true Json.flag? }

def DepthPolicy.toJson (p : DepthPolicy) : Json :=
  .obj [("cap_threshold", .ofNat p.capThreshold), ("target_budget", .ofNat p.targetBudget)]

def CompileOptions.toJson (o : CompileOptions) : Json :=
  .obj [("depth_policy", o.depthPolicy.toJson), ("emit_tokens", .bool o.emitTokens),
    ("language", .str o.language), ("max_code_bytes", .ofNat o.maxCodeBytes),
    ("placeholder_base", .str o.placeholderBase), ("scale", .ofSingle o.scale),
    ("unit", o.unit.toJson)]

/-! ### Limits -/

/-- The limits of outlines and pictures. -/
structure Limits where
  structureMaxNodes : Nat := 240
  structureMaxNameChars : Nat := 48
  structureDefaultDepth : Nat := 8
  maxScreenshotBytes : Nat := 4 * 1024 * 1024
  minScreenshotScale : Float32 := 0.25

def Limits.ofJson? (j : Json) : Option Limits := do
  let [maxNodes, maxNameChars, defaultDepth, maxBytes, minScale] ←
    j.fields? ["structure_max_nodes", "structure_max_name_chars", "structure_default_depth",
      "max_screenshot_bytes", "min_screenshot_scale"] | none
  return {
    structureMaxNodes := ← maxNodes.withDefault? 240 Json.count?
    structureMaxNameChars := ← maxNameChars.withDefault? 48 Json.count?
    structureDefaultDepth := ← defaultDepth.withDefault? 8 Json.count?
    maxScreenshotBytes := ← maxBytes.withDefault? (4 * 1024 * 1024) Json.count?
    minScreenshotScale := ← minScale.withDefault? 0.25 Json.single? }

def Limits.toJson (l : Limits) : Json :=
  .obj [("max_screenshot_bytes", .ofNat l.maxScreenshotBytes),
    ("min_screenshot_scale", .ofSingle l.minScreenshotScale),
    ("structure_default_depth", .ofNat l.structureDefaultDepth),
    ("structure_max_name_chars", .ofNat l.structureMaxNameChars),
    ("structure_max_nodes", .ofNat l.structureMaxNodes)]

end SceneCompiler
