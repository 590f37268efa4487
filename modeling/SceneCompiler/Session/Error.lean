import SceneCompiler.Plugin.Source
import SceneCompiler.Scene.Id
/-!
# Failures of operations

The failures that a caller of an operation sees. All other failures, of single pictures or single
calls of hooks, only leave their mark on the result.
-/

namespace SceneCompiler

/-- Why an operation failed. -/
inductive SessionError where
  /-- None of the roots of a compilation is visible. -/
  | noVisibleRoot
  /-- Neither the selector nor the selection has a visible node. -/
  | nothingSelected
  /-- The host has no scene. -/
  | sceneUnavailable (reason : String)
  /-- The host cannot export a node as a picture. -/
  | exportFailed (id : NodeId) (reason : String)
  /-- The picture of a node is too large at every scale, and no least scale ends the search. -/
  | noScaleFits (id : NodeId)
  /-- The source of a plugin is refused. -/
  | sourceRefused (e : SourceError)
  /-- The session has no place to run plugins. -/
  | noRunner
  /-- The isolate did not start, or did not load the code. -/
  | runnerFailed (reason : String)
deriving DecidableEq, Repr

/-- The two kinds of failures. -/
inductive SessionErrorKind where
  | selection
  | pluginLoad
deriving DecidableEq, Repr

namespace SessionError

def kind : SessionError → SessionErrorKind
  | noVisibleRoot | nothingSelected | sceneUnavailable _ | exportFailed _ _ | noScaleFits _ =>
    .selection
  | sourceRefused _ | noRunner | runnerFailed _ => .pluginLoad

def reason : SessionError → String
  | noVisibleRoot => "no visible root to compile"
  | nothingSelected => "select a visible layer or pass its id"
  | sceneUnavailable reason => "scene unavailable: " ++ reason
  | exportFailed id reason => "cannot export " ++ id.text ++ ": " ++ reason
  | noScaleFits id => "cannot export " ++ id.text ++ ": no scale fits"
  | sourceRefused e => e.message
  | noRunner => "no isolate runner configured"
  | runnerFailed reason => reason

def message (e : SessionError) : String :=
  match e.kind with
  | .selection => "no visible node in selection: " ++ e.reason
  | .pluginLoad => "plugin failed to load: " ++ e.reason

end SessionError

end SceneCompiler
