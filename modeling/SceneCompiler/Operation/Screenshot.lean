import SceneCompiler.Digest.Base64
import SceneCompiler.Operation.Selection
import SceneCompiler.Session.Export
/-!
# Screenshots

A picture of the first selected node at twice its size, or at half the scale as often as it takes to
fit the limit in bytes, but not below the least scale.
-/

namespace SceneCompiler

/-- A picture of a node. Without an upload its address holds the bytes. -/
structure Screenshot where
  url : String
  scale : Float32
  /-- The count of bytes. -/
  size : Nat
  asset : Option AssetDescriptor := none

def Screenshot.toJson (s : Screenshot) : Json :=
  .ofMembers [("asset", s.asset.map AssetDescriptor.toJson), ("scale", some (.ofSingle s.scale)),
    ("size", some (.ofNat s.size)), ("url", some (.str s.url))]

def screenshotScale : Float32 := 2

/-- After so many halvings the first scale has become zero, and stays it. -/
def screenshotHalvings : Nat := 151

/-- An address that holds the bytes of a picture. -/
def pngDataUrl (bytes : ByteArray) : String :=
  "data:" ++ pngMediaType ++ ";base64," ++ Base64.encode bytes

namespace Session

variable {m : Type → Type} [Monad m]

/-- A picture ends the search if it is small enough, or if the next scale would be too small. -/
def settles (limits : Limits) (scale : Float32) (bytes : ByteArray) : Bool :=
  bytes.size ≤ limits.maxScreenshotBytes || scale / 2 < limits.minScreenshotScale

/-- Exports a node at a scale, and at the halves of it, until a picture ends the search. -/
def searchScale (s : Session m) (id : NodeId) : Nat → Float32 → SessionM m (Float32 × ByteArray)
  | halvings, scale => do
    match ← s.exportPng id scale with
    | .error reason => throw (.exportFailed id reason)
    | .ok bytes =>
      if settles s.limits scale bytes then return (scale, bytes)
      match halvings with
      | 0 => throw (.noScaleFits id)
      | rest + 1 => s.searchScale id rest (scale / 2)

/-- The screenshot of a node from its bytes at a scale. -/
def uploadScreenshot (s : Session m) (bounds : Option Box) (scale : Float32) (bytes : ByteArray) :
    CacheM m Screenshot := do
  let hash := contentHash bytes
  match ← s.upload hash pngMediaType bytes with
  | none => return { url := pngDataUrl bytes, scale, size := bytes.size }
  | some url =>
    let asset : AssetDescriptor := {
      hash
      mediaType := pngMediaType
      size := bytes.size
      url
      width := bounds.map fun b => b.width * scale
      height := bounds.map fun b => b.height * scale }
    return { url, scale, size := bytes.size, asset }

/-- A picture of the first node that a selector means. -/
def getScreenshot (s : Session m) (selector : Option (List NodeId)) : SessionM m Screenshot := do
  let (g, id :: _) ← s.currentSelection selector | throw .nothingSelected
  let (scale, bytes) ← s.searchScale id screenshotHalvings screenshotScale
  s.uploadScreenshot ((g.find? id).map (·.bounds)) scale bytes

end Session

end SceneCompiler
