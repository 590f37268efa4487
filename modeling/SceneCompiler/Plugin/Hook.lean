import SceneCompiler.Json.Basic
import SceneCompiler.Number.Decimal
/-!
# Hooks

A plugin may define four hooks. Calls go to it as requests with numbers, and come back as responses
that carry a result or an error.
-/

namespace SceneCompiler

/-- The hooks of a plugin: for the rules of nodes, the names of variables, pixel literals, and the
component. -/
inductive HookKind where
  | transform
  | transformVariable
  | transformPx
  | transformComponent
deriving DecidableEq, Repr

namespace HookKind

def all : List HookKind :=
  [transform, transformVariable, transformPx, transformComponent]

/-- The name of a hook in plugin sources and messages. -/
def name : HookKind → String
  | transform => "transform"
  | transformVariable => "transformVariable"
  | transformPx => "transformPx"
  | transformComponent => "transformComponent"

def ofName? (name : String) : Option HookKind :=
  all.find? (·.name = name)

end HookKind

/-- A call of a hook. -/
structure HookRequest where
  id : Nat
  hook : HookKind
  payload : Json

/-- An answer to a call. A result of null counts as none. -/
structure HookResponse where
  id : Nat
  result : Option Json := none
  error : Option String := none

/-! ### Failures -/

/-- Why a call has no value. -/
inductive HookError where
  /-- The hook reported an error. -/
  | threw (hook : HookKind) (reason : String)
  /-- The whole batch of calls failed. -/
  | exchangeFailed (reason : String)
  /-- The batch has no response with the number of the call. -/
  | noResponse (id : Nat)
  /-- There is no hook, or no result, or none of the right kind. -/
  | unusable (hook : HookKind)
deriving DecidableEq, Repr

def HookError.message : HookError → String
  | .threw hook reason => "hook `" ++ hook.name ++ "` threw: " ++ reason
  | .exchangeFailed reason => "plugin channel failed: " ++ reason
  | .noResponse id => "plugin channel failed: no response for request " ++ integerText id
  | .unusable hook => "hook `" ++ hook.name ++ "` returned an unusable value"

/-- Accepts a result only if it is a text. -/
def HookKind.expectText (hook : HookKind) : Json → Except HookError String
  | .str s => .ok s
  | _ => .error (.unusable hook)

end SceneCompiler
