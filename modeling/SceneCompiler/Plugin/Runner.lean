import SceneCompiler.Plugin.Channel
import SceneCompiler.Plugin.FrameText
/-!
# Runners behind a stream

An isolate on the far side of a pair of byte streams: each request is one frame out, and the reply
is the next frame in.
-/

namespace SceneCompiler

/-- Both directions of the connection: the bytes still to be read, and the bytes written. -/
structure RunnerStream where
  incoming : List UInt8
  sent : List UInt8 := []

/-- Why a request had no answer of its kind. -/
inductive RunnerError where
  | wire (e : FrameError)
  /-- The runner says that the request failed. -/
  | failed (reason : String)
  | unexpectedReply (request : String) (reply : Frame)

def RunnerError.message : RunnerError → String
  | .wire e => e.message
  | .failed reason => reason
  | .unexpectedReply request reply => "unexpected reply to " ++ request ++ ": " ++ reply.inWords

namespace RunnerStream

/-- Writes a frame, and reads one if that went well. -/
def roundtrip (s : RunnerStream) (f : Frame) : Except FrameError Frame × RunnerStream :=
  match f.write with
  | .error e => (.error e, s)
  | .ok bytes =>
    let (reply, incoming) := Frame.read s.incoming
    (reply, { incoming, sent := s.sent ++ bytes })

def load (s : RunnerStream) (code : String) (bindings : List String) :
    Except RunnerError (List String) × RunnerStream :=
  let (reply, s) := s.roundtrip (.load code bindings)
  (match reply with
    | .ok (.loaded hooks) => .ok hooks
    | .ok (.failed reason) => .error (.failed reason)
    | .ok other => .error (.unexpectedReply "load" other)
    | .error e => .error (.wire e), s)

def exchange (s : RunnerStream) (requests : List HookRequest) :
    Except RunnerError (List HookResponse) × RunnerStream :=
  let (reply, s) := s.roundtrip (.batch requests)
  (match reply with
    | .ok (.results responses) => .ok responses
    | .ok (.failed reason) => .error (.failed reason)
    | .ok other => .error (.unexpectedReply "batch" other)
    | .error e => .error (.wire e), s)

end RunnerStream

/-- The runner as an isolate that keeps the state of its streams. -/
def framedIsolate : Isolate (StateM RunnerStream) where
  load code bindings := do
    let (result, s) := (← get).load code bindings
    set s
    return result.mapError (·.message)
  exchange requests := do
    let (result, s) := (← get).exchange requests
    set s
    return result.mapError (·.message)

end SceneCompiler
