import SceneCompiler.Number.Decimal
import SceneCompiler.Scene.Node
/-!
# Uploaded assets

What is said about an uploaded picture, media types, and the addresses of placeholders.
-/

namespace SceneCompiler

/-- An uploaded picture. -/
structure AssetDescriptor where
  /-- The hash of the bytes. -/
  hash : String
  mediaType : String
  /-- The count of bytes. -/
  size : Nat
  url : String
  width : Option Float32 := none
  height : Option Float32 := none

/-- The name of an uploaded picture as a resource. -/
def AssetDescriptor.resourceUri (d : AssetDescriptor) : String :=
  "asset://" ++ d.hash

def AssetDescriptor.toJson (d : AssetDescriptor) : Json :=
  .ofMembers [("hash", some (.str d.hash)), ("height", d.height.map .ofSingle),
    ("mimeType", some (.str d.mediaType)), ("resourceUri", some (.str d.resourceUri)),
    ("size", some (.ofNat d.size)), ("url", some (.str d.url)), ("width", d.width.map .ofSingle)]

def svgMediaType : String := "image/svg+xml"

def pngMediaType : String := "image/png"

/-! ### Media types -/

/-- The media type that the first bytes of a picture tell. -/
def sniffMediaType : List UInt8 → String
  | 0x89 :: 0x50 :: 0x4E :: 0x47 :: _ => pngMediaType
  | 0xFF :: 0xD8 :: 0xFF :: _ => "image/jpeg"
  | 0x47 :: 0x49 :: 0x46 :: 0x38 :: _ => "image/gif"
  | 0x52 :: 0x49 :: 0x46 :: 0x46 :: _ :: _ :: _ :: _ :: 0x57 :: 0x45 :: 0x42 :: 0x50 :: _ =>
    "image/webp"
  | _ => "application/octet-stream"

/-! ### Placeholders -/

/-- A side of a placeholder: the scaled length in whole pixels, at least one. -/
def placeholderSide (length scale : Float32) : Nat :=
  let scaled := length * scale
  let largest := 0x7fffffffffffffff
  match Exact.ofSingle? scaled with
  | some e => max 1 (min largest e.rounded.truncated.toNat)
  | none => if 0 < scaled then largest else 1

/-- The address of a placeholder for a box at a scale. -/
def placeholderUrl (base : String) (bounds : Box) (scale : Float32) : String :=
  String.ofList (dropTrailing '/' base.toList ++ '/' ::
    (decimalDigits (placeholderSide bounds.width scale) ++ 'x' ::
      decimalDigits (placeholderSide bounds.height scale)))

end SceneCompiler
