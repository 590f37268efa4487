import SceneCompiler.Asset.Upload
import SceneCompiler.Options
import SceneCompiler.Scene.Decode
import SceneCompiler.Scene.Encode
/-!
# Requests and results

What a compilation is asked for and what it answers with: blocks of code, the uploads that they
refer to, the values of the tokens, and warnings.
-/

namespace SceneCompiler

/-! ### Requests -/

/-- A compilation of some roots. -/
structure CompileRequest where
  roots : List NodeId := []
  options : CompileOptions := {}
  pluginCode : Option String := none

def CompileRequest.ofJson? (j : Json) : Option CompileRequest := do
  let [roots, options, pluginCode] ← j.fields? ["roots", "options", "plugin_code"] | none
  return {
    roots := ← roots.withDefault? [] (Json.listOf? NodeId.ofJson?)
    options := ← options.withDefault? {} CompileOptions.ofJson?
    pluginCode := ← pluginCode.optional? Json.text? }

/-- A compilation of what a selector means. -/
structure CodeRequest where
  selector : Option (List NodeId) := none
  options : CompileOptions := {}
  pluginCode : Option String := none

def CodeRequest.ofJson? (j : Json) : Option CodeRequest := do
  let [selector, options, pluginCode] ← j.fields? ["selector", "options", "pluginCode"] | none
  return {
    selector := ← selector.optional? (Json.listOf? NodeId.ofJson?)
    options := ← options.withDefault? {} CompileOptions.ofJson?
    pluginCode := ← pluginCode.optional? Json.text? }

/-! ### Results -/

/-- A block of code. -/
structure CodeBlock where
  name : String
  title : String
  language : String
  code : String
deriving DecidableEq

/-- What a caller should know about a result. -/
inductive Warning where
  /-- A block was cut at a count of bytes. -/
  | truncated (block : String) (limit : Nat)
  /-- The layouts of some nodes, given by id and name, are inferred or unknown. -/
  | uncertainLayout (nodes : List (NodeId × String × String))
  /-- Nodes at the depth limit lost their children. -/
  | depthCap (limit : Option Nat) (cappedNodes : Nat)
deriving DecidableEq

/-- The result of a compilation. -/
structure CompileResult where
  blocks : List CodeBlock
  warnings : List Warning
  assets : List AssetDescriptor
  /-- The values of the tokens that the styles refer to. -/
  tokens : TextMap

/-! ### JSON -/

def CodeBlock.toJson (b : CodeBlock) : Json :=
  .obj [("code", .str b.code), ("language", .str b.language), ("name", .str b.name),
    ("title", .str b.title)]

namespace Warning

def name : Warning → String
  | truncated .. => "truncated"
  | uncertainLayout _ => "auto-layout"
  | depthCap .. => "depth-cap"

/-- What a warning says about a node of uncertain layout. -/
def layoutToJson : NodeId × String × String → Json
  | (id, name, layout) =>
    .obj [("id", id.toJson), ("layout", .str layout), ("name", .str name)]

def data : Warning → Json
  | truncated block limit => .obj [("block", .str block), ("limit", .ofNat limit)]
  | uncertainLayout nodes => .ofList layoutToJson nodes
  | depthCap limit cappedNodes =>
    .obj [("cappedNodes", .ofNat cappedNodes), ("depthLimit", .ofOption .ofNat limit)]

def toJson (w : Warning) : Json :=
  .obj [("data", w.data), ("type", .str w.name)]

end Warning

def CompileResult.toJson (r : CompileResult) : Json :=
  .obj [("assets", .ofList AssetDescriptor.toJson r.assets),
    ("blocks", .ofList CodeBlock.toJson r.blocks), ("tokens", .ofTextMap r.tokens),
    ("warnings", .ofList Warning.toJson r.warnings)]

end SceneCompiler
