import SceneCompiler.Outline
import SceneCompiler.Session.Caches
/-!
# What an operation is about

An operation takes the scene of the host as it is, and the nodes that its selector names. A selector
without usable nodes means the selection of the host.
-/

namespace SceneCompiler

/-- The nodes that are visible with all of their ancestors. -/
def SceneGraph.usable (g : SceneGraph) (ids : List NodeId) : List NodeId :=
  ids.filter g.isEffectivelyVisible

/-- The usable nodes of a selector, or else those of the selection. -/
def SceneGraph.resolveSelection (g : SceneGraph) (selector : Option (List NodeId)) :
    Except SessionError (List NodeId) :=
  let chosen := g.usable (selector.getD [])
  let found := if chosen.isEmpty then g.usable g.selection else chosen
  if found.isEmpty then .error .nothingSelected else .ok found

namespace Session

variable {m : Type → Type} [Monad m]

def currentScene (s : Session m) : SessionM m SceneGraph := do
  match ← s.scene with
  | .ok g => return g
  | .error reason => throw (.sceneUnavailable reason)

/-- The scene of the host, and the nodes that a selector means in it. -/
def currentSelection (s : Session m) (selector : Option (List NodeId)) :
    SessionM m (SceneGraph × List NodeId) := do
  let g ← s.currentScene
  return (g, ← MonadExcept.ofExcept (g.resolveSelection selector))

/-- The outline of what a selector means. -/
def getStructure (s : Session m) (selector : Option (List NodeId)) (depth : Option Nat) :
    SessionM m Outline := do
  let (g, roots) ← s.currentSelection selector
  return g.outline roots depth s.limits

end Session

end SceneCompiler
