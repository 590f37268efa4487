import SceneCompiler.Options
import SceneCompiler.Plugin.Channel
import SceneCompiler.Session.InFlight
import SceneCompiler.Style.Basic
import SceneCompiler.Token.Index
/-!
# Sessions and their caches

A session talks to a host with the scene, a store for pictures, and perhaps a source of favicons and
a source of isolates. They act in a monad `m` (see `Isolate`). What outlives one operation are the
caches: loaded plugins and token indexes by scale and plugin, and uploads, image bytes and favicons.
-/

namespace SceneCompiler

/-! ### Collaborators -/

/-- Those whom the operations of a session ask, and the limits that it keeps. -/
structure Session (m : Type → Type) where
  /-- The scene of the host, with its selection. -/
  scene : m (Except String SceneGraph)
  /-- The style declarations of a node. -/
  styleSnapshot : NodeId → m (Except String Declarations)
  /-- A node as vector picture. -/
  exportSvg : NodeId → m (Except String String)
  /-- A node as picture at a scale. -/
  exportPng : NodeId → Float32 → m (Except String ByteArray)
  /-- The bytes of an image by its hash, if the host still has them. -/
  imageBytes : String → m (Except String (Option ByteArray))
  /-- Stores bytes under their hash with their media type; the answer is their address. -/
  store : String → String → ByteArray → m (Except String String)
  /-- The favicon of a domain. -/
  faviconSource : Option (String → m (Except String (Option String))) := none
  isolates : Option (IsolateFactory m) := none
  limits : Limits := {}

/-! ### Keys -/

/-- What token indexes and plugins depend on: the scale by its bits, and the fingerprint of the
plugin, which is empty without one. -/
structure CacheKey where
  scaleBits : Nat
  fingerprint : String
deriving DecidableEq, Repr

namespace CacheKey

instance : Ord CacheKey :=
  ⟨compareLex (compareOn CacheKey.scaleBits) (compareOn CacheKey.fingerprint)⟩

instance : Std.TransOrd CacheKey :=
  inferInstanceAs
    (Std.TransCmp (compareLex (compareOn CacheKey.scaleBits) (compareOn CacheKey.fingerprint)))

instance : Std.LawfulEqOrd CacheKey where
  compare_self := Std.ReflCmp.compare_self
  eq_of_compare {a b} h := by
    obtain ⟨scale, print⟩ := Ordering.then_eq_eq.mp h
    have scale : compare a.scaleBits b.scaleBits = .eq := scale
    have print : compare a.fingerprint b.fingerprint = .eq := print
    cases a; cases b
    exact congr (congrArg CacheKey.mk (Std.compare_eq_iff_eq.mp scale))
      (Std.compare_eq_iff_eq.mp print)

def of (scale : Float32) (fingerprint : Option String) : CacheKey :=
  ⟨scale.toBits.toNat, fingerprint.getD ""⟩

end CacheKey

/-! ### Caches -/

/-- What a session keeps between operations. -/
structure Caches (m : Type → Type) where
  plugins : Std.ExtTreeMap CacheKey (Channel m) := ∅
  tokenIndexes : Std.ExtTreeMap CacheKey TokenIndex := ∅
  /-- The key of the index that was stored last. -/
  lastTokenKey : Option CacheKey := none
  /-- Addresses of uploads by hash. -/
  uploads : InFlight String (Option String) := {}
  /-- Image bytes by hash. -/
  images : InFlight String (Option ByteArray) := {}
  /-- Favicons by domain. -/
  favicons : InFlight String (Option String) := {}

/-- Steps that use the caches. -/
abbrev CacheM (m : Type → Type) := StateT (Caches m) m

/-- Operations, which may fail. The caches keep what was done before a failure. -/
abbrev SessionM (m : Type → Type) := ExceptT SessionError (CacheM m)

namespace Caches

variable {m : Type → Type}

/-! ### Token indexes -/

/-- The index that was stored last, if it is still there. -/
def latestTokenIndex? (c : Caches m) : Option TokenIndex :=
  c.lastTokenKey.bind fun key => c.tokenIndexes[key]?

def storeTokenIndex (c : Caches m) (key : CacheKey) (x : TokenIndex) : Caches m :=
  { c with tokenIndexes := c.tokenIndexes.insert key x, lastTokenKey := some key }

/-! ### Forgetting -/

def evictPlugins (c : Caches m) : Caches m :=
  { c with plugins := ∅ }

def evictTokenIndexes (c : Caches m) : Caches m :=
  { c with tokenIndexes := ∅, lastTokenKey := none }

/-- Drops the bytes of an image; also whether it was known. -/
def evictImage (c : Caches m) (hash : String) : Bool × Caches m :=
  let (known, images) := c.images.evict hash
  (known, { c with images })

def clear (c : Caches m) : Caches m :=
  { c.evictPlugins.evictTokenIndexes with
    uploads := c.uploads.clear
    images := c.images.clear
    favicons := c.favicons.clear }

end Caches

namespace Session

variable {m : Type → Type} [Monad m]

/-! ### Plugins -/

def loadPlugin (s : Session m) (code : String) : m (Except SessionError (Channel m)) := do
  match s.isolates with
  | none => return .error .noRunner
  | some factory =>
    match ← factory.spawn with
    | .error reason => return .error (.runnerFailed reason)
    | .ok isolate => Channel.load isolate code

/-- The plugin for some code at a scale, loaded on first use. -/
def plugin (s : Session m) (code : String) (scale : Float32) : SessionM m (Channel m) := do
  let key := CacheKey.of scale (some (sourceFingerprint code))
  match (← get).plugins[key]? with
  | some channel => return channel
  | none =>
    let channel ← ExceptT.mk (s.loadPlugin code : CacheM m _)
    modify fun c => { c with plugins := c.plugins.insert key channel }
    return channel

/-! ### Bytes, uploads, favicons -/

/-- The bytes of an image. That there are none is remembered too. -/
def image (s : Session m) (hash : String) : CacheM m (Option ByteArray) := do
  let c ← get
  let (bytes, images) ← c.images.getOrRun hash do
    return (← s.imageBytes hash).toOption.join
  set { c with images }
  return bytes

/-- The address of an upload. Failures are not remembered, so that a later call tries again. -/
def upload (s : Session m) (hash mediaType : String) (bytes : ByteArray) :
    CacheM m (Option String) := do
  let c ← get
  let (address, uploads) ← c.uploads.getOrRun hash do
    return (← s.store hash mediaType bytes).toOption
  set { c with uploads := if address.isSome then uploads else (uploads.evict hash).2 }
  return address

/-- The favicon of a domain. That there is none is remembered too. -/
def favicon (s : Session m) (domain : String) : CacheM m (Option String) := do
  match s.faviconSource with
  | none => return none
  | some lookup =>
    let c ← get
    let (icon, favicons) ← c.favicons.getOrRun domain do
      return (← lookup domain).toOption.join
    set { c with favicons }
    return icon

end Session

end SceneCompiler
