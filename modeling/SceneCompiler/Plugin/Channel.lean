import SceneCompiler.Digest.Sha256
import SceneCompiler.Plugin.Hook
import SceneCompiler.Plugin.Source
import SceneCompiler.Session.Error
/-!
# Plugin channels

Plugin code runs in an isolate, which answers batches of calls. A channel numbers the calls, sends
them in batches of bounded size, and matches the responses up by number.

Isolates act in a monad `m`, so that one definition serves for isolates that are functions, keep a
state, or write a log.
-/

namespace SceneCompiler

/-- A place where plugin code runs. -/
structure Isolate (m : Type → Type) where
  /-- Evaluates code with some globals in scope, and gives the names of the hooks it defines. -/
  load : String → List String → m (Except String (List String))
  /-- Makes a batch of calls. -/
  exchange : List HookRequest → m (Except String (List HookResponse))

/-- A source of fresh isolates. -/
structure IsolateFactory (m : Type → Type) where
  spawn : m (Except String (Isolate m))

/-- The largest count of calls in one batch. -/
def batchLimit : Nat := 300

/-- The globals in scope of plugin code. -/
def pluginBindings : List String :=
  ["JSON", "Math", "String", "Number", "Boolean", "Array", "Object", "RegExp", "parseInt",
    "parseFloat"]

/-- The address of a plugin source. -/
def sourceFingerprint (code : String) : String :=
  Sha256.hexDigest code.toUTF8

/-- A loaded plugin. -/
structure Channel (m : Type → Type) where
  isolate : Isolate m
  hooks : List HookKind
  fingerprint : String
  /-- The number of the next call. -/
  nextId : Nat := 1

namespace Channel

variable {m : Type → Type}

def hasHook (c : Channel m) (hook : HookKind) : Bool :=
  c.hooks.contains hook

/-- Checks code and loads it into an isolate. Names of unknown hooks are ignored. -/
def load [Monad m] (isolate : Isolate m) (code : String) : m (Except SessionError (Channel m)) :=
  match checkSource code with
  | .error e => return .error (.sourceRefused e)
  | .ok () => do
    match ← isolate.load code pluginBindings with
    | .error reason => return .error (.runnerFailed reason)
    | .ok names =>
      return .ok {
        isolate
        hooks := HookKind.all.filter fun hook => names.contains hook.name
        fingerprint := sourceFingerprint code }

/-! ### Calls -/

/-- The first `size` items, and the batches of the others; `fuel` bounds their count. -/
def batches {α : Type} (size : Nat) : Nat → List α → List (List α)
  | _, [] => []
  | 0, items => [items]
  | fuel + 1, items => items.take size :: batches size fuel (items.drop size)

def number (hook : HookKind) (first : Nat) (payloads : List Json) : List HookRequest :=
  (payloads.zipIdx first).map fun (payload, id) => ⟨id, hook, payload⟩

/-- The outcome of the call with a number: that of the last response with the number. -/
def outcome (hook : HookKind) (responses : List HookResponse) (id : Nat) : Except HookError Json :=
  match responses.reverse.find? (·.id = id) with
  | some { error := some reason, .. } => .error (.threw hook reason)
  | some { result := some value, .. } => .ok value
  | some _ => .error (.unusable hook)
  | none => .error (.noResponse id)

def callOne [Monad m] (c : Channel m) (hook : HookKind) (payloads : List Json) :
    m (List (Except HookError Json) × Channel m) := do
  let requests := number hook c.nextId payloads
  let next := { c with nextId := c.nextId + payloads.length }
  match ← c.isolate.exchange requests with
  | .ok responses => return (requests.map fun r => outcome hook responses r.id, next)
  | .error reason => return (requests.map fun _ => .error (.exchangeFailed reason), next)

/-- Makes several batches of calls, one after the other. -/
def callAll [Monad m] (c : Channel m) (hook : HookKind) :
    List (List Json) → m (List (Except HookError Json) × Channel m)
  | [] => return ([], c)
  | payloads :: rest => do
    let (results, c) ← c.callOne hook payloads
    let (others, c) ← c.callAll hook rest
    return (results ++ others, c)

/-- Calls a hook with each payload; the results are in the order of the payloads. A hook that the
plugin does not define is not called. -/
def callBatch [Monad m] (c : Channel m) (hook : HookKind) (payloads : List Json) :
    m (List (Except HookError Json) × Channel m) :=
  if c.hasHook hook then c.callAll hook (batches batchLimit payloads.length payloads)
  else return (payloads.map fun _ => .error (.unusable hook), c)

def call [Monad m] (c : Channel m) (hook : HookKind) (payload : Json) :
    m (Except HookError Json × Channel m) := do
  let (results, c) ← c.callBatch hook [payload]
  return (results.getLast?.getD (.error (.unusable hook)), c)

end Channel

end SceneCompiler
