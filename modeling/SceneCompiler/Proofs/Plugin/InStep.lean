import Mathlib
import SceneCompiler.Plugin.Runner
import SceneCompiler.Proofs.Plugin.Frames
/-!
# Staying in step with a runner

A runner answers each request with one block, a length and that many bytes. A call is in step if all
earlier blocks are read to their ends when it starts: then it reads its own block, and its result
hangs on nothing else. Blocks of every content are read to their ends, but of a block beyond the
size limit of frames only the length is read, and the next call reads on inside it.

* `run_of_written`: a call that starts in step.
* `inStep_turns_iff`: a sequence of calls is in step exactly when no block is too long, save perhaps
  the last one.
* `turns_oversized`: a call that is answered out of the block of the call before it.
-/

namespace SceneCompiler

/-! ## Definitions -/

/-- A call to the runner behind a stream. -/
inductive RunnerCall where
  | load (code : String) (bindings : List String)
  | exchange (requests : List HookRequest)

/-- What a call gives. -/
inductive RunnerResult where
  | loaded (result : Except RunnerError (List String))
  | exchanged (result : Except RunnerError (List HookResponse))

namespace RunnerCall

/-- The frame that the call sends. -/
def request : RunnerCall → Frame
  | load code bindings => .load code bindings
  | exchange requests => .batch requests

/-- Whether the request is short enough to be written. -/
def isWritten (call : RunnerCall) : Bool :=
  match call.request.write with
  | .ok _ => true
  | .error _ => false

def run (s : RunnerStream) : RunnerCall → RunnerResult × RunnerStream
  | load code bindings =>
    let (result, s) := s.load code bindings
    (.loaded result, s)
  | exchange requests =>
    let (result, s) := s.exchange requests
    (.exchanged result, s)

def failure (e : RunnerError) : RunnerCall → RunnerResult
  | load _ _ => .loaded (.error e)
  | exchange _ => .exchanged (.error e)

end RunnerCall

/-- A block of the reply stream: its length in four bytes, and its contents. -/
def Frame.block (content : List UInt8) : List UInt8 :=
  Pack.bigEndian 4 content.length ++ content

/-- A call with the stream before and after it. -/
structure RunnerTurn where
  call : RunnerCall
  before : RunnerStream
  result : RunnerResult
  after : RunnerStream

/-- Some calls one after the other. The runner answers the request that `k` others were written
before with block `answer k`, which comes behind what is still unread. -/
def RunnerStream.turns (answer : Nat → List UInt8) (s : RunnerStream) (k : Nat) :
    List RunnerCall → List RunnerTurn
  | [] => []
  | call :: calls =>
    if call.isWritten then
      let (result, after) := call.run { s with incoming := s.incoming ++ Frame.block (answer k) }
      ⟨call, s, result, after⟩ :: turns answer after (k + 1) calls
    else
      let (result, after) := call.run s
      ⟨call, s, result, after⟩ :: turns answer after k calls

/-- The calls are in step with the runner from request `k` on. A call whose request is written finds
nothing unread, and has the result that its own block would give it on a stream with nothing else; a
call whose request is too long leaves both directions of the stream alone. -/
inductive InStep (answer : Nat → List UInt8) : Nat → List RunnerTurn → Prop where
  | nil (k : Nat) : InStep answer k []
  | written {k : Nat} {turn : RunnerTurn} {turns : List RunnerTurn} {bytes : List UInt8}
      (request : turn.call.request.write = .ok bytes)
      (allRead : turn.before.incoming = [])
      (result : turn.result = (turn.call.run ⟨Frame.block (answer k), []⟩).1)
      (sent : turn.after.sent = turn.before.sent ++ bytes)
      (later : InStep answer (k + 1) turns) : InStep answer k (turn :: turns)
  | refused {k : Nat} {turn : RunnerTurn} {turns : List RunnerTurn} {e : FrameError}
      (request : turn.call.request.write = .error e)
      (result : turn.result = turn.call.failure (.wire e))
      (untouched : turn.after = turn.before)
      (later : InStep answer k turns) : InStep answer k (turn :: turns)

/-! ## One call -/

namespace Frame

theorem read_block_of_long {content : List UInt8} (small : content.length < 2 ^ 32)
    (long : sizeLimit < content.length) :
    read (block content) = (.error (.tooLong content.length), content) := by
  simp only [read, block, readNat?_length small, if_pos long]

/-- Of a block that is too long only the length is read; all others are read to their ends. -/
theorem read_block_snd {content : List UInt8} (small : content.length < 2 ^ 32) :
    (read (block content)).2 = if sizeLimit < content.length then content else [] := by
  by_cases hlong : sizeLimit < content.length
  · rw [read_block_of_long small hlong, if_pos hlong]
  · have hbody := Pack.takeExactly?_append content []
    rw [List.append_nil] at hbody
    simp only [read, block, readNat?_length small, if_neg hlong, hbody]
    split <;> rfl

end Frame

namespace RunnerCall

theorem isWritten_iff {call : RunnerCall} :
    call.isWritten = true ↔ ∃ bytes, call.request.write = .ok bytes := by
  rw [isWritten]
  cases call.request.write <;> simp

theorem isWritten_eq_false_iff {call : RunnerCall} :
    call.isWritten = false ↔ ∃ e, call.request.write = .error e := by
  rw [isWritten]
  cases call.request.write <;> simp

/-- A request that is too long is neither written nor answered. -/
theorem run_of_refused {call : RunnerCall} {e : FrameError} (h : call.request.write = .error e)
    (s : RunnerStream) : call.run s = (call.failure (.wire e), s) := by
  cases call <;> simp only [request] at h <;>
    simp [run, failure, RunnerStream.load, RunnerStream.exchange, RunnerStream.roundtrip, h]

/-- A call whose request is written hangs on the frame that it reads. -/
theorem run_of_written {call : RunnerCall} {bytes : List UInt8}
    (h : call.request.write = .ok bytes) (s : RunnerStream) :
    call.run s = ((call.run ⟨s.incoming, []⟩).1, ⟨(Frame.read s.incoming).2, s.sent ++ bytes⟩) := by
  cases call <;> simp only [request] at h <;>
    simp [run, RunnerStream.load, RunnerStream.exchange, RunnerStream.roundtrip, h]

theorem run_of_error {call : RunnerCall} {bytes : List UInt8}
    (h : call.request.write = .ok bytes) {s : RunnerStream} {e : FrameError} {rest : List UInt8}
    (hread : Frame.read s.incoming = (.error e, rest)) :
    call.run s = (call.failure (.wire e), ⟨rest, s.sent ++ bytes⟩) := by
  cases call <;> simp only [request] at h <;>
    simp [run, failure, RunnerStream.load, RunnerStream.exchange, RunnerStream.roundtrip, h, hread]

theorem run_load_of_loaded {code : String} {bindings : List String} {bytes : List UInt8}
    (h : (Frame.load code bindings).write = .ok bytes) {s : RunnerStream} {hooks : List String}
    {rest : List UInt8} (hread : Frame.read s.incoming = (.ok (.loaded hooks), rest)) :
    (load code bindings).run s = (.loaded (.ok hooks), ⟨rest, s.sent ++ bytes⟩) := by
  simp [run, RunnerStream.load, RunnerStream.roundtrip, h, hread]

end RunnerCall

/-! ## A sequence of calls -/

namespace RunnerStream

open RunnerCall

variable {answer : Nat → List UInt8} {k : Nat} {call : RunnerCall} {calls : List RunnerCall}

theorem inStep_cons_of_refused {s : RunnerStream} (h : call.isWritten = false) :
    InStep answer k (s.turns answer k (call :: calls))
      ↔ InStep answer k (s.turns answer k calls) := by
  obtain ⟨e, he⟩ := isWritten_eq_false_iff.mp h
  rw [turns, if_neg (by simp [h]), run_of_refused he]
  constructor
  · intro hstep
    cases hstep with
    | written request => simp [he] at request
    | refused _ _ _ later => exact later
  · exact fun later => .refused he rfl rfl later

/-- A call that starts in step leaves its block behind only if the block is too long. -/
theorem inStep_cons_of_written {bytes : List UInt8} (h : call.request.write = .ok bytes)
    (small : (answer k).length < 2 ^ 32) (sent : List UInt8) :
    InStep answer k (turns answer ⟨[], sent⟩ k (call :: calls))
      ↔ InStep answer (k + 1) (turns answer
          ⟨if Frame.sizeLimit < (answer k).length then answer k else [], sent ++ bytes⟩
          (k + 1) calls) := by
  rw [turns, if_pos (isWritten_iff.mpr ⟨bytes, h⟩), run_of_written h, List.nil_append,
    Frame.read_block_snd small]
  constructor
  · intro hstep
    cases hstep with
    | written _ _ _ _ later => exact later
    | refused request => simp [h] at request
  · exact fun later => .written h rfl rfl rfl later

theorem not_inStep_cons_of_unread {s : RunnerStream} (h : call.isWritten = true)
    (unread : s.incoming ≠ []) : ¬ InStep answer k (s.turns answer k (call :: calls)) := by
  obtain ⟨bytes, hbytes⟩ := isWritten_iff.mp h
  rw [turns, if_pos h]
  intro hstep
  cases hstep with
  | written _ allRead => exact unread allRead
  | refused request => simp [hbytes] at request

/-- Once something is left unread, only calls that write nothing are in step. -/
theorem inStep_iff_of_unread {s : RunnerStream} (unread : s.incoming ≠ []) :
    InStep answer k (s.turns answer k calls) ↔ calls.countP isWritten = 0 := by
  induction calls with
  | nil => simp [turns, InStep.nil]
  | cons call calls ih =>
    cases hcall : call.isWritten with
    | true => simp [not_inStep_cons_of_unread hcall unread, hcall]
    | false => rw [inStep_cons_of_refused hcall, ih, List.countP_cons_of_neg (by simp [hcall])]

/-- The calls are in step, from request `k` on, exactly if no block but the last is too long. -/
theorem inStep_turns_from (small : ∀ k, (answer k).length < 2 ^ 32) (calls : List RunnerCall)
    (k : Nat) (sent : List UInt8) :
    InStep answer k (turns answer ⟨[], sent⟩ k calls)
      ↔ ∀ i, i + 1 < calls.countP isWritten → (answer (k + i)).length ≤ Frame.sizeLimit := by
  induction calls generalizing k sent with
  | nil => simp [turns, InStep.nil]
  | cons call calls ih =>
    cases hcall : call.isWritten with
    | false =>
      rw [inStep_cons_of_refused hcall, ih, List.countP_cons_of_neg (by simp [hcall])]
    | true =>
      obtain ⟨bytes, hbytes⟩ := isWritten_iff.mp hcall
      rw [inStep_cons_of_written hbytes (small k), List.countP_cons_of_pos (by simp [hcall])]
      by_cases hlong : Frame.sizeLimit < (answer k).length
      · have hne : answer k ≠ [] := by
          rintro heq
          simp [heq] at hlong
        rw [if_pos hlong, inStep_iff_of_unread hne]
        constructor
        · intro hnone i hi
          omega
        · intro hall
          by_contra hsome
          have := hall 0 (by omega)
          rw [Nat.add_zero] at this
          omega
      · rw [if_neg hlong, ih]
        constructor
        · intro hall i hi
          cases i with
          | zero => exact Nat.le_of_not_lt hlong
          | succ i =>
            have := hall i (by omega)
            rwa [Nat.add_right_comm] at this
        · intro hall i hi
          have := hall (i + 1) (by omega)
          rwa [← Nat.add_assoc, Nat.add_right_comm] at this

/-- Calls are in step with a runner, whatever its blocks hold and whatever the calls come to,
exactly as long as no block before the one of the last written request is longer than a frame may
be. -/
theorem inStep_turns_iff {answer : Nat → List UInt8} (small : ∀ k, (answer k).length < 2 ^ 32)
    (calls : List RunnerCall) (sent : List UInt8) :
    InStep answer 0 (turns answer ⟨[], sent⟩ 0 calls)
      ↔ ∀ k, k + 1 < calls.countP isWritten → (answer k).length ≤ Frame.sizeLimit := by
  have := inStep_turns_from small calls 0 sent
  simpa using this

/-- A runner whose first block holds no frame, and whose second one does. -/
def undecodableAnswer (k : Nat) : List UInt8 :=
  if k = 0 then [0xff] else (Frame.loaded ["transform"]).pack.write

theorem inStep_after_undecodable :
    (∀ k, (undecodableAnswer k).length < 2 ^ 32) ∧
      InStep undecodableAnswer 0
        (turns undecodableAnswer ⟨[], []⟩ 0 [.load "a" [], .exchange [], .load "b" ["x"]]) := by
  have small : ∀ k, (undecodableAnswer k).length ≤ Frame.sizeLimit := by
    intro k
    unfold undecodableAnswer
    split_ifs <;> decide
  have small' : ∀ k, (undecodableAnswer k).length < 2 ^ 32 :=
    fun k => Nat.lt_of_le_of_lt (small k) (by decide)
  exact ⟨small', (inStep_turns_iff small' _ _).mpr fun k _ => small k⟩

/-! ## A block that is too long -/

/-- After a block that is too long the next call reads the frame at the start of its contents. -/
theorem turns_of_long {hooks : List String} {rest : List UInt8}
    (small : (answer 0).length < 2 ^ 32) (long : Frame.sizeLimit < (answer 0).length)
    (inside : Frame.read (answer 0 ++ Frame.block (answer 1)) = (.ok (.loaded hooks), rest)) :
    (turns answer ⟨[], []⟩ 0 [.load "a" [], .load "b" []]).map (·.result)
      = [.loaded (.error (.wire (.tooLong (answer 0).length))), .loaded (.ok hooks)] := by
  have ha : (RunnerCall.load "a" []).request.write
      = .ok (Frame.block (Frame.load "a" []).pack.write) := rfl
  have hb : (RunnerCall.load "b" []).request.write
      = .ok (Frame.block (Frame.load "b" []).pack.write) := rfl
  have hfirst := run_of_error ha (s := ⟨Frame.block (answer 0), []⟩)
    (Frame.read_block_of_long small long)
  have hsecond (sent : List UInt8) :
      (RunnerCall.load "b" []).run ⟨answer 0 ++ Frame.block (answer 1), sent⟩ = _ :=
    run_load_of_loaded hb inside
  rw [turns, if_pos (isWritten_iff.mpr ⟨_, ha⟩), List.nil_append, hfirst]
  simp only [turns, if_pos (isWritten_iff.mpr ⟨_, hb⟩), List.map_cons, List.map_nil, hsecond,
    RunnerCall.failure]

theorem read_block_loaded (hook : String)
    (h : (Frame.loaded [hook]).pack.write.length ≤ Frame.sizeLimit) (rest : List UInt8) :
    Frame.read (Frame.block (Frame.loaded [hook]).pack.write ++ rest)
      = (.ok (.loaded [hook]), rest) := by
  have hwrite : (Frame.loaded [hook]).write
      = .ok (Frame.block (Frame.loaded [hook]).pack.write) := by
    rw [Frame.write, if_neg (Nat.not_lt_of_le h), Frame.block]
  rw [Frame.read_write hwrite trivial]
  rfl

/-- A runner whose first block is one byte longer than a frame may be, and starts with a frame. -/
def oversizedAnswer (k : Nat) : List UInt8 :=
  if k = 0 then
    Frame.block (Frame.loaded ["inside"]).pack.write ++ List.replicate (Frame.sizeLimit - 28) 0
  else (Frame.loaded ["second"]).pack.write

theorem length_oversizedAnswer_zero : (oversizedAnswer 0).length = Frame.sizeLimit + 1 := by
  have hinside : (Frame.block (Frame.loaded ["inside"]).pack.write).length = 29 := rfl
  rw [oversizedAnswer, if_pos rfl, List.length_append, hinside, List.length_replicate]
  rfl

theorem length_oversizedAnswer_lt (k : Nat) : (oversizedAnswer k).length < 2 ^ 32 := by
  cases k with
  | zero => rw [length_oversizedAnswer_zero]; decide
  | succ k => rw [oversizedAnswer, if_neg k.succ_ne_zero]; decide

/-- The second call takes its result from the first block, and not from its own. -/
theorem turns_oversized :
    ¬ InStep oversizedAnswer 0
        (turns oversizedAnswer ⟨[], []⟩ 0 [.load "a" [], .load "b" []]) ∧
    (turns oversizedAnswer ⟨[], []⟩ 0 [.load "a" [], .load "b" []]).map (·.result)
        = [.loaded (.error (.wire (.tooLong (Frame.sizeLimit + 1)))), .loaded (.ok ["inside"])] ∧
      ((RunnerCall.load "b" []).run ⟨Frame.block (oversizedAnswer 1), []⟩).1
        = .loaded (.ok ["second"]) := by
  have hb : (RunnerCall.load "b" []).request.write
      = .ok (Frame.block (Frame.load "b" []).pack.write) := rfl
  have hinside : Frame.read (oversizedAnswer 0 ++ Frame.block (oversizedAnswer 1))
      = (.ok (.loaded ["inside"]),
          List.replicate (Frame.sizeLimit - 28) 0 ++ Frame.block (oversizedAnswer 1)) := by
    rw [oversizedAnswer, if_pos rfl, List.append_assoc, read_block_loaded "inside" (by decide)]
  have hown : Frame.read (Frame.block (oversizedAnswer 1)) = (.ok (.loaded ["second"]), []) := by
    rw [← List.append_nil (Frame.block _)]
    exact read_block_loaded "second" (by decide) []
  have hlong : Frame.sizeLimit < (oversizedAnswer 0).length := by
    rw [length_oversizedAnswer_zero]
    exact Nat.lt_succ_self _
  have hresults := turns_of_long (length_oversizedAnswer_lt 0) hlong hinside
  rw [length_oversizedAnswer_zero] at hresults
  refine ⟨fun hstep => ?_, hresults, by rw [run_load_of_loaded hb hown]⟩
  rw [inStep_turns_from length_oversizedAnswer_lt] at hstep
  exact Nat.not_le_of_lt hlong (hstep 0 (by decide))

end RunnerStream

end SceneCompiler
