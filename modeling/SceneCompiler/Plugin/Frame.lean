import SceneCompiler.Json.Decode
import SceneCompiler.Plugin.Hook
import SceneCompiler.Plugin.Pack
/-!
# Frames

What a session and the runner of an isolate say to each other. On the wire a frame is its length in
four bytes, the highest first, and a packed map that names the kind of the frame under `op`.
-/

namespace SceneCompiler

open Json (Reading)

/-- A message to or from a runner. -/
inductive Frame where
  | load (code : String) (bindings : List String)
  | loaded (hooks : List String)
  | failed (reason : String)
  | batch (requests : List HookRequest)
  | results (responses : List HookResponse)

/-! ### JSON -/

def HookKind.ofJson? (reading : Reading) (j : Json) : Option HookKind :=
  j.choice? reading (HookKind.all.map fun hook => (hook.name, hook))

def HookRequest.ofJson? (reading : Reading) (j : Json) : Option HookRequest := do
  let [id, hook, payload] ← j.fields? ["id", "hook", "payload"] | none
  return {
    id := ← id.required? Json.count?
    hook := ← hook.required? (HookKind.ofJson? reading)
    payload := ← payload.required? some }

def HookResponse.ofJson? (j : Json) : Option HookResponse := do
  let [id, result, error] ← j.fields? ["id", "result", "error"] | none
  return {
    id := ← id.required? Json.count?
    result := ← result.optional? some
    error := ← error.optional? Json.text? }

def HookRequest.toJson (r : HookRequest) : Json :=
  .obj [("hook", .str r.hook.name), ("id", .ofNat r.id), ("payload", r.payload)]

def HookResponse.toJson (r : HookResponse) : Json :=
  .obj [("error", .ofOption .str r.error), ("id", .ofNat r.id), ("result", r.result.getD .null)]

namespace Frame

def toJson : Frame → Json
  | load code bindings =>
    .obj [("bindings", .ofList .str bindings), ("code", .str code), ("op", .str "load")]
  | loaded hooks => .obj [("hooks", .ofList .str hooks), ("op", .str "loaded")]
  | failed reason => .obj [("error", .str reason), ("op", .str "failed")]
  | batch requests =>
    .obj [("op", .str "batch"), ("requests", .ofList HookRequest.toJson requests)]
  | results responses =>
    .obj [("op", .str "results"), ("responses", .ofList HookResponse.toJson responses)]

def kinds : List String :=
  ["load", "loaded", "failed", "batch", "results"]

/-- Reads a frame. Its fields are set aside until its kind is known. -/
def ofJson? (j : Json) : Option Frame := do
  match ← j.tagged? .direct "op" kinds with
  | ("load", body) =>
    let [code, bindings] ← body.fields? ["code", "bindings"] | none
    return .load (← code.required? Json.text?) (← bindings.required? (Json.listOf? Json.text?))
  | ("loaded", body) =>
    let [hooks] ← body.fields? ["hooks"] | none
    return .loaded (← hooks.required? (Json.listOf? Json.text?))
  | ("failed", body) =>
    let [error] ← body.fields? ["error"] | none
    return .failed (← error.required? Json.text?)
  | ("batch", body) =>
    let [requests] ← body.fields? ["requests"] | none
    return .batch (← requests.required? (Json.listOf? (HookRequest.ofJson? .deferred)))
  | ("results", body) =>
    let [responses] ← body.fields? ["responses"] | none
    return .results (← responses.required? (Json.listOf? HookResponse.ofJson?))
  | _ => none

end Frame

/-! ### Packing -/

namespace Pack

def record (fields : List (String × Pack)) : Pack :=
  .map (fields.map fun (name, p) => (.str name, p))

def texts (items : List String) : Pack :=
  .arr (items.map .str)

def optional (p : Option Pack) : Pack :=
  p.getD .nil

end Pack

def HookRequest.pack (r : HookRequest) : Pack :=
  .record [("id", .unsigned 8 r.id), ("hook", .str r.hook.name), ("payload", .ofJson r.payload)]

def HookResponse.pack (r : HookResponse) : Pack :=
  .record [("id", .unsigned 8 r.id), ("result", .optional (r.result.map .ofJson)),
    ("error", .optional (r.error.map .str))]

def Frame.pack : Frame → Pack
  | .load code bindings =>
    .record [("op", .str "load"), ("code", .str code), ("bindings", .texts bindings)]
  | .loaded hooks => .record [("op", .str "loaded"), ("hooks", .texts hooks)]
  | .failed reason => .record [("op", .str "failed"), ("error", .str reason)]
  | .batch requests =>
    .record [("op", .str "batch"), ("requests", .arr (requests.map HookRequest.pack))]
  | .results responses =>
    .record [("op", .str "results"), ("responses", .arr (responses.map HookResponse.pack))]

/-! ### Unpacking -/

namespace Pack

/-- A whole number of 64 bits. -/
def count? : Pack → Option Nat
  | unsigned _ n => some n
  | signed n => if 0 ≤ n then some n.toNat else none
  | _ => none

def nullable? {α : Type} (read : Pack → Option α) : Pack → Option (Option α)
  | nil => some none
  | p => (read p).map some

def listOf? {α : Type} (read : Pack → Option α) : Pack → Option (List α)
  | arr items => items.mapM read
  | _ => none

/-- A JSON value, with its keys in order. -/
def json? (p : Pack) : Option Json :=
  (toJson? p).map Json.canonical

/-- The place of a tag among some names, which the tag gives as a text or by number. -/
def tagPlace? (names : List String) : Pack → Option Nat
  | str s => names.idxOf? s
  | bytes data => (textOf? data).bind names.idxOf?
  | unsigned _ n => if n < names.length then some n else none
  | _ => none

/-- Whether a value that was set aside can name a field or a hook: a text, or a number of one byte
or of eight. -/
def isName : Pack → Bool
  | str _ => true
  | bytes _ => true
  | unsigned width _ => width ≤ 1 || width = 8
  | _ => false

/-- The place of a key among some names, if there is one. `none` for values that are no keys. -/
def place? (names : List String) (key : Pack) : Option (Option Nat) :=
  if isName key then some (tagPlace? names key) else none

/-- The values of some fields in a map or an array; `none` if a field of a map is repeated, or an
array has more items. -/
def fields? (names : List String) : Pack → Option (List (Option Pack))
  | map entries => do
    let placed ← entries.mapM fun (k, v) => (place? names k).map fun place => (place, v)
    names.zipIdx.mapM fun (_, i) =>
      match placed.filter (·.1 = some i) with
      | [] => some none
      | [(_, v)] => some (some v)
      | _ => none
  | arr items =>
    if names.length < items.length then none
    else some (items.map some ++ List.replicate (names.length - items.length) none)
  | _ => none

/-- A field that may be missing or nil. -/
def optionalField? {α : Type} (read : Pack → Option α) : Option Pack → Option (Option α)
  | some p => nullable? read p
  | none => some none

end Pack

/-- Unpacks a hook: a text, or the only key of a map over nil or an empty map. -/
def HookKind.ofPack? : Pack → Option HookKind
  | .str s => HookKind.ofName? s
  | .map [(key, .nil)] => hookOf? key
  | .map [(key, .map [])] => hookOf? key
  | _ => none
where
  /-- The hook that a key names. -/
  hookOf? (key : Pack) : Option HookKind := do
    let some place ← key.place? (HookKind.all.map (·.name)) | none
    HookKind.all[place]?

def HookRequest.ofPack? (p : Pack) : Option HookRequest := do
  let [some id, some hook, some payload] ← p.fields? ["id", "hook", "payload"] | none
  return { id := ← id.count?, hook := ← HookKind.ofPack? hook, payload := ← payload.json? }

def HookResponse.ofPack? (p : Pack) : Option HookResponse := do
  let [some id, result, error] ← p.fields? ["id", "result", "error"] | none
  return {
    id := ← id.count?
    result := ← Pack.optionalField? Pack.json? result
    error := ← Pack.optionalField? Pack.text? error }

namespace Frame

def kindOf? (tag : Pack) : Option String := do
  kinds[← tag.tagPlace? kinds]?

/-- The kind of a packed frame, and the frame without it. -/
def tagged? : Pack → Option (String × Pack)
  | .map entries => do
    let isTag (k : Pack) : Bool := k.text? == some "op"
    match entries.filter fun (k, _) => isTag k with
    | [(_, tag)] => return (← kindOf? tag, .map (entries.filter fun (k, _) => !isTag k))
    | _ => none
  | .arr (tag :: items) => do return (← kindOf? tag, .arr items)
  | _ => none

def ofPack? (p : Pack) : Option Frame := do
  match ← tagged? p with
  | ("load", body) =>
    let [some code, some bindings] ← body.fields? ["code", "bindings"] | none
    return .load (← code.text?) (← bindings.listOf? Pack.text?)
  | ("loaded", body) =>
    let [some hooks] ← body.fields? ["hooks"] | none
    return .loaded (← hooks.listOf? Pack.text?)
  | ("failed", body) =>
    let [some error] ← body.fields? ["error"] | none
    return .failed (← error.text?)
  | ("batch", body) =>
    let [some requests] ← body.fields? ["requests"] | none
    return .batch (← requests.listOf? HookRequest.ofPack?)
  | ("results", body) =>
    let [some responses] ← body.fields? ["responses"] | none
    return .results (← responses.listOf? HookResponse.ofPack?)
  | _ => none

end Frame

/-! ### The wire -/

/-- Why a frame could not be written or read. -/
inductive FrameError where
  | tooLong (size : Nat)
  | lengthMissing
  | bodyMissing
  | malformed
deriving DecidableEq, Repr

def FrameError.message : FrameError → String
  | .tooLong size => "frame of " ++ integerText size ++ " bytes exceeds limit"
  | .lengthMissing => "read length"
  | .bodyMissing => "read frame"
  | .malformed => "decode"

namespace Frame

def sizeLimit : Nat := 16 * 1024 * 1024

def write (f : Frame) : Except FrameError (List UInt8) :=
  let body := f.pack.write
  if sizeLimit < body.length then .error (.tooLong body.length)
  else .ok (Pack.bigEndian 4 body.length ++ body)

/-- Reads the frame at the start of a stream, and gives what is left of the stream. After a length
beyond the limit the stream goes on right behind the length; a stream that ends too early is used
up. -/
def read (stream : List UInt8) : Except FrameError Frame × List UInt8 :=
  match Pack.readNat? 4 stream with
  | none => (.error .lengthMissing, [])
  | some (size, rest) =>
    if sizeLimit < size then (.error (.tooLong size), rest)
    else
      match Pack.takeExactly? size rest with
      | none => (.error .bodyMissing, [])
      | some (body, rest) =>
        match (Pack.readStart? body).bind ofPack? with
        | some f => (.ok f, rest)
        | none => (.error .malformed, rest)

end Frame

end SceneCompiler
