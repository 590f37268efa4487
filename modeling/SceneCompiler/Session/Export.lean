import SceneCompiler.Asset.Svg
import SceneCompiler.Asset.Upload
import SceneCompiler.Markup.Build
import SceneCompiler.Session.Caches
/-!
# Exporting pictures

The pictures of a plan are exported and uploaded under the hashes of their bytes. A picture that
cannot be uploaded becomes part of the markup, and an image without bytes gets a placeholder.
-/

namespace SceneCompiler

def contentHash (bytes : ByteArray) : String :=
  Sha256.hexDigest bytes

/-- How markup refers to an exported node, and the uploads that were made for it. -/
structure ExportedAsset where
  reference : AssetReference
  descriptors : List AssetDescriptor

def AssetDescriptor.ofUpload (bytes : ByteArray) (mediaType url : String) (bounds : Box) :
    AssetDescriptor where
  hash := contentHash bytes
  mediaType
  size := bytes.size
  url
  width := some bounds.width
  height := some bounds.height

/-- Appends a description unless there is one of the same bytes. -/
def AssetDescriptor.addTo (descriptors : List AssetDescriptor) (d : AssetDescriptor) :
    List AssetDescriptor :=
  if descriptors.any (·.hash = d.hash) then descriptors else descriptors ++ [d]

/-- The asset of a node with image fills: the first upload, or else a placeholder. -/
def ExportedAsset.ofImages (n : SceneNode) (options : CompileOptions)
    (descriptors : List AssetDescriptor) : ExportedAsset where
  reference := .url (match descriptors with
    | first :: _ => first.url
    | [] => placeholderUrl options.placeholderBase n.bounds options.scale)
  descriptors

namespace Session

variable {m : Type → Type} [Monad m]

/-- Exports the root of a vector picture; `none` if the host cannot draw it. -/
def exportVector (s : Session m) (id : NodeId) (bounds : Box) (unit : LengthUnit) :
    CacheM m (Option ExportedAsset) := do
  match ← s.exportSvg id with
  | .error _ => return none
  | .ok drawn =>
    let markup := normalizeSvg drawn bounds.width bounds.height unit
    let bytes := markup.toUTF8
    match ← s.upload (contentHash bytes) svgMediaType bytes with
    | some url =>
      return some ⟨.url url, [AssetDescriptor.ofUpload bytes svgMediaType url bounds]⟩
    | none => return some ⟨.inlined markup, []⟩

/-- Uploads the bytes of an image, if there are any. -/
def uploadImage (s : Session m) (bounds : Box) (hash : String) :
    CacheM m (Option AssetDescriptor) := do
  match ← s.image hash with
  | none => return none
  | some bytes =>
    let mediaType := sniffMediaType bytes.data.toList
    let url ← s.upload (contentHash bytes) mediaType bytes
    return url.map fun url => AssetDescriptor.ofUpload bytes mediaType url bounds

/-- Exports a node through its image fills, in order. Equal images count once. -/
def exportImages (s : Session m) (n : SceneNode) (options : CompileOptions) :
    CacheM m ExportedAsset := do
  let uploaded ← n.usableImageHashes.mapM (s.uploadImage n.bounds)
  return .ofImages n options (uploaded.reduceOption.foldl AssetDescriptor.addTo [])

end Session

end SceneCompiler
