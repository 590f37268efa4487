import Mathlib
import SceneCompiler.Proofs.Plugin.Defaults
/-!
# Calls over a channel

A channel is used for calls, one or several of a hook at a time, and the calls go to its isolate in
batches. Whatever the isolate replies, and whatever it does besides, the same batches are sent, and
each result hangs on the reply to its own batch alone.

* `resultOf_iff`: the result of a call, by the reply to its batch.
* `sends_batches`: how the calls of a hook go out.
* `exists_servesAll`: what a channel sends and answers, over any sequence of uses.
-/

namespace SceneCompiler

/-! ## Definitions -/

/-- What an isolate makes of a batch: responses, or the error of the whole exchange. -/
abbrev BatchReply := Except String (List HookResponse)

/-- What a response says of a call of a hook. An error counts more than a result. -/
def HookResponse.verdict (hook : HookKind) (response : HookResponse) : Except HookError Json :=
  match response.error, response.result with
  | some reason, _ => .error (.threw hook reason)
  | none, some value => .ok value
  | none, none => .error (.unusable hook)

/-- The result of a call, by the reply to its batch. Of several responses with the number of the
call the last one counts, and those with other numbers do not matter. -/
inductive ResultOf (r : HookRequest) : BatchReply → Except HookError Json → Prop where
  | exchangeFailed (reason : String) :
      ResultOf r (.error reason) (.error (.exchangeFailed reason))
  | noResponse {responses : List HookResponse} (others : ∀ s ∈ responses, s.id ≠ r.id) :
      ResultOf r (.ok responses) (.error (.noResponse r.id))
  | answered {before after : List HookResponse} {response : HookResponse}
      (number : response.id = r.id) (last : ∀ s ∈ after, s.id ≠ r.id) :
      ResultOf r (.ok (before ++ response :: after)) (response.verdict r.hook)

/-- The results of the calls in some batches, by the replies to them: one for each call, in
order. -/
inductive Answered :
    List (List HookRequest) → List BatchReply → List (Except HookError Json) → Prop where
  | nil : Answered [] [] []
  | cons {batch : List HookRequest} {rest : List (List HookRequest)} {reply : BatchReply}
      {replies : List BatchReply} {results others : List (Except HookError Json)}
      (first : List.Forall₂ (fun r result => ResultOf r reply result) batch results)
      (later : Answered rest replies others) :
      Answered (batch :: rest) (reply :: replies) (results ++ others)

/-- The batches in which calls of a hook go out: every payload once and in order, under numbers from
the given one on, in full batches except for the last. -/
structure Sends (hook : HookKind) (first : Nat) (payloads : List Json)
    (batches : List (List HookRequest)) : Prop where
  inOrder : batches.flatten.map (·.payload) = payloads
  numbers : batches.flatten.map (·.id) = List.range' first payloads.length
  hook : ∀ r ∈ batches.flatten, r.hook = hook
  full : ∀ batch ∈ batches.dropLast, batch.length = batchLimit
  bounded : ∀ batch ∈ batches, 0 < batch.length ∧ batch.length ≤ batchLimit

/-- What a channel is used for: one call of a hook, or several. -/
inductive ChannelUse where
  | one (hook : HookKind) (payload : Json)
  | several (hook : HookKind) (payloads : List Json)

namespace ChannelUse

def hook : ChannelUse → HookKind
  | one hook _ => hook
  | several hook _ => hook

def payloads : ChannelUse → List Json
  | one _ payload => [payload]
  | several _ payloads => payloads

end ChannelUse

/-- Batches to exchange one after the other, and the results by the replies to them. -/
structure Dispatch where
  batches : List (List HookRequest)
  results : List BatchReply → List (Except HookError Json)

namespace Dispatch

/-- All calls, in the order in which they go out. -/
def requests (d : Dispatch) : List HookRequest :=
  d.batches.flatten

def run {m : Type → Type} [Monad m] (d : Dispatch) (i : Isolate m) :
    m (List (Except HookError Json)) :=
  d.results <$> d.batches.mapM i.exchange

end Dispatch

/-- What a use of a channel with some hooks comes to. -/
structure Serves (hasHook : HookKind → Bool) (use : ChannelUse) (d : Dispatch) : Prop where
  complete : ∀ replies, replies.length = d.batches.length →
    (d.results replies).length = use.payloads.length
  defined : hasHook use.hook = true → (∃ first, Sends use.hook first use.payloads d.batches)
    ∧ ∀ replies, replies.length = d.batches.length → Answered d.batches replies (d.results replies)
  undefined : hasHook use.hook = false → d.batches = []
    ∧ ∀ replies, ∀ result ∈ d.results replies, result = .error (.unusable use.hook)

namespace Channel

variable {m : Type → Type} [Monad m]

/-- The results of one use of a channel, and the channel after it. -/
def use (c : Channel m) : ChannelUse → m (List (Except HookError Json) × Channel m)
  | .one hook payload => (fun o => ([o.1], o.2)) <$> c.call hook payload
  | .several hook payloads => c.callBatch hook payloads

/-- The results of some uses of a channel, one after the other, and the channel after them. -/
def useAll (c : Channel m) :
    List ChannelUse → m (List (List (Except HookError Json)) × Channel m)
  | [] => return ([], c)
  | use :: rest => do
    let (results, c) ← c.use use
    let (others, c) ← c.useAll rest
    return (results :: others, c)

end Channel

/-- What a channel sends and answers over a sequence of uses: each use has exchanges of its own, one
batch after the other, and the results by the replies to them. The numbers of all calls go on from
use to use, so that none is used twice. -/
structure ServesAll {m : Type → Type} [Monad m] (c : Channel m) (uses : List ChannelUse)
    (dispatches : List Dispatch) : Prop where
  run : c.useAll uses = (fun results => (results, { c with
      nextId := c.nextId + (dispatches.flatMap (·.requests)).length }))
    <$> dispatches.mapM (·.run c.isolate)
  serves : List.Forall₂ (Serves c.hasHook) uses dispatches
  numbers : (dispatches.flatMap (·.requests)).map (·.id)
    = List.range' c.nextId (dispatches.flatMap (·.requests)).length

/-! ## Results -/

theorem outcome_append_cons (hook : HookKind) {before after : List HookResponse}
    {response : HookResponse} {id : Nat} (hid : response.id = id) (hlast : ∀ s ∈ after, s.id ≠ id) :
    Channel.outcome hook (before ++ response :: after) id = response.verdict hook := by
  have hnone : after.reverse.find? (·.id = id) = none := by
    rw [List.find?_eq_none]
    intro s hs
    simpa using hlast s (List.mem_reverse.mp hs)
  unfold Channel.outcome
  rw [List.reverse_append, List.reverse_cons, List.append_assoc, List.find?_append, hnone]
  obtain ⟨_, result, error⟩ := response
  subst hid
  cases error <;> cases result <;> simp [HookResponse.verdict]

theorem outcome_of_others (hook : HookKind) {responses : List HookResponse} {id : Nat}
    (h : ∀ s ∈ responses, s.id ≠ id) :
    Channel.outcome hook responses id = .error (.noResponse id) := by
  have hnone : responses.reverse.find? (·.id = id) = none := by
    rw [List.find?_eq_none]
    intro s hs
    simpa using h s (List.mem_reverse.mp hs)
  unfold Channel.outcome
  rw [hnone]

/-- The responses with a number have a last one, if there are any. -/
theorem exists_last_response (responses : List HookResponse) (id : Nat) :
    (∀ s ∈ responses, s.id ≠ id) ∨ ∃ before response after,
      responses = before ++ response :: after ∧ response.id = id ∧ ∀ s ∈ after, s.id ≠ id := by
  induction responses with
  | nil => exact Or.inl (by simp)
  | cons s rest ih =>
    rcases ih with hothers | ⟨before, response, after, rfl, hid, hlast⟩
    · by_cases hid : s.id = id
      · exact Or.inr ⟨[], s, rest, rfl, hid, hothers⟩
      · exact Or.inl (List.forall_mem_cons.mpr ⟨hid, hothers⟩)
    · exact Or.inr ⟨s :: before, response, after, rfl, hid, hlast⟩

/-- A call has one result for each reply. -/
theorem resultOf_iff {r : HookRequest} {reply : BatchReply} {result : Except HookError Json} :
    ResultOf r reply result ↔ result = Channel.outcomeIn reply r := by
  constructor
  · intro h
    cases h with
    | exchangeFailed reason => rfl
    | noResponse hothers => exact (outcome_of_others r.hook hothers).symm
    | answered hid hlast => exact (outcome_append_cons r.hook hid hlast).symm
  · rintro rfl
    cases reply with
    | error reason => exact .exchangeFailed reason
    | ok responses =>
      rcases exists_last_response responses r.id with
        hothers | ⟨before, response, after, rfl, hid, hlast⟩
      · rw [Channel.outcomeIn, outcome_of_others r.hook hothers]
        exact .noResponse hothers
      · rw [Channel.outcomeIn, outcome_append_cons r.hook hid hlast]
        exact .answered hid hlast

/-- The results of some batches, by the replies to them. -/
def outcomesIn : List (List HookRequest) → List BatchReply → List (Except HookError Json)
  | batch :: rest, reply :: replies =>
    batch.map (Channel.outcomeIn reply) ++ outcomesIn rest replies
  | _, _ => []

theorem answered_outcomesIn {batches : List (List HookRequest)} {replies : List BatchReply}
    (h : replies.length = batches.length) :
    Answered batches replies (outcomesIn batches replies) := by
  induction batches generalizing replies with
  | nil =>
    rw [List.length_eq_zero_iff.mp h]
    exact .nil
  | cons batch rest ih =>
    cases replies with
    | nil => cases h
    | cons reply replies =>
      refine .cons ?_ (ih (Nat.succ.inj h))
      rw [List.forall₂_map_right_iff, List.forall₂_same]
      exact fun r _ => resultOf_iff.mpr rfl

theorem Answered.length_eq {batches : List (List HookRequest)} {replies : List BatchReply}
    {results : List (Except HookError Json)} (h : Answered batches replies results) :
    results.length = batches.flatten.length := by
  induction h with
  | nil => rfl
  | cons hfirst _ ih => rw [List.length_append, List.flatten_cons, List.length_append, ih,
      hfirst.length_eq]

/-! ## Batches -/

namespace Channel

/-- The batches of calls for some lists of payloads, with numbers from the given one on. -/
def numberAll (hook : HookKind) : Nat → List (List Json) → List (List HookRequest)
  | _, [] => []
  | first, payloads :: rest =>
    number hook first payloads :: numberAll hook (first + payloads.length) rest

variable {hook : HookKind}

theorem payloads_numberAll (first : Nat) (parts : List (List Json)) :
    (numberAll hook first parts).flatten.map (·.payload) = parts.flatten := by
  induction parts generalizing first with
  | nil => rfl
  | cons payloads rest ih =>
    rw [numberAll, List.flatten_cons, List.map_append, number_payload, ih, List.flatten_cons]

theorem ids_numberAll (first : Nat) (parts : List (List Json)) :
    (numberAll hook first parts).flatten.map (·.id) = List.range' first parts.flatten.length := by
  induction parts generalizing first with
  | nil => rfl
  | cons payloads rest ih =>
    rw [numberAll, List.flatten_cons, List.map_append, number_id, ih, List.flatten_cons,
      List.length_append, List.range'_append_1]

theorem hook_of_mem_numberAll {first : Nat} {parts : List (List Json)} {r : HookRequest}
    (hr : r ∈ (numberAll hook first parts).flatten) : r.hook = hook := by
  induction parts generalizing first with
  | nil => cases hr
  | cons payloads rest ih =>
    rw [numberAll, List.flatten_cons] at hr
    rcases List.mem_append.mp hr with hfirst | hlater
    · exact hook_of_mem_number hfirst
    · exact ih hlater

theorem lengths_numberAll (hook : HookKind) (first : Nat) (parts : List (List Json)) :
    (numberAll hook first parts).map List.length = parts.map List.length := by
  induction parts generalizing first with
  | nil => rfl
  | cons payloads rest ih =>
    rw [numberAll, List.map_cons, ih, List.map_cons, number, List.length_map, List.length_zipIdx]

theorem batches_ne_nil {α : Type} (size fuel : Nat) {items : List α} (h : items ≠ []) :
    batches size fuel items ≠ [] := by
  cases items with
  | nil => exact absurd rfl h
  | cons item rest => cases fuel <;> simp [batches]

/-- The first part and the others. -/
theorem batches_succ {α : Type} (size fuel : Nat) {items : List α} (h : items ≠ []) :
    batches size (fuel + 1) items = items.take size :: batches size fuel (items.drop size) := by
  cases items with
  | nil => exact absurd rfl h
  | cons item rest => simp [batches]

/-- No part is empty. -/
theorem length_of_mem_batches {α : Type} {size : Nat} (hsize : 0 < size) {fuel : Nat}
    {items part : List α} (hfuel : items.length ≤ fuel) (hpart : part ∈ batches size fuel items) :
    0 < part.length ∧ part.length ≤ size := by
  induction fuel generalizing items with
  | zero =>
    rw [List.length_eq_zero_iff.mp (Nat.le_zero.mp hfuel)] at hpart
    simp [batches] at hpart
  | succ fuel ih =>
    by_cases hitems : items = []
    · simp [hitems, batches] at hpart
    · have hpos := List.length_pos_iff.mpr hitems
      rw [batches_succ size fuel hitems] at hpart
      rcases List.mem_cons.mp hpart with rfl | hlater
      · rw [List.length_take]
        omega
      · exact ih (by rw [List.length_drop]; omega) hlater

/-- All parts but the last are full. -/
theorem length_of_mem_dropLast_batches {α : Type} {size : Nat} (hsize : 0 < size) {fuel : Nat}
    {items part : List α} (hfuel : items.length ≤ fuel)
    (hpart : part ∈ (batches size fuel items).dropLast) : part.length = size := by
  induction fuel generalizing items with
  | zero =>
    rw [List.length_eq_zero_iff.mp (Nat.le_zero.mp hfuel)] at hpart
    simp [batches] at hpart
  | succ fuel ih =>
    by_cases hitems : items = []
    · simp [hitems, batches] at hpart
    · have hpos := List.length_pos_iff.mpr hitems
      rw [batches_succ size fuel hitems] at hpart
      by_cases hleft : items.drop size = []
      · simp [hleft, batches] at hpart
      · rw [List.dropLast_cons_of_ne_nil (batches_ne_nil size fuel hleft)] at hpart
        rcases List.mem_cons.mp hpart with rfl | hlater
        · -- Something is left behind the first part, so the first part is full.
          have hlong := List.length_pos_iff.mpr hleft
          rw [List.length_drop] at hlong
          rw [List.length_take]
          omega
        · exact ih (by rw [List.length_drop]; omega) hlater

/-- How the calls of a hook go out. -/
theorem sends_batches (hook : HookKind) (first : Nat) (payloads : List Json) :
    Sends hook first payloads
      (numberAll hook first (batches batchLimit payloads.length payloads)) := by
  have hsize : 0 < batchLimit := by decide
  have hlengths := lengths_numberAll hook first (batches batchLimit payloads.length payloads)
  constructor
  case inOrder => rw [payloads_numberAll, flatten_batches]
  case numbers => rw [ids_numberAll, flatten_batches]
  case hook => exact fun r hr => hook_of_mem_numberAll hr
  case full =>
    intro batch hbatch
    have hlength := List.mem_map_of_mem (f := List.length) hbatch
    rw [List.map_dropLast, hlengths, ← List.map_dropLast] at hlength
    obtain ⟨part, hpart, hlength⟩ := List.mem_map.mp hlength
    rw [← hlength, length_of_mem_dropLast_batches hsize le_rfl hpart]
  case bounded =>
    intro batch hbatch
    have hlength := List.mem_map_of_mem (f := List.length) hbatch
    rw [hlengths] at hlength
    obtain ⟨part, hpart, hlength⟩ := List.mem_map.mp hlength
    rw [← hlength]
    exact length_of_mem_batches hsize le_rfl hpart

/-! ## Uses of a channel -/

variable {m : Type → Type} [Monad m] [LawfulMonad m]

/-- Several batches of calls are exchanged one after the other. The numbers go on from batch to
batch, whatever the replies are. -/
theorem callAll_eq (parts : List (List Json)) (c : Channel m) :
    c.callAll hook parts = (fun replies =>
        (outcomesIn (numberAll hook c.nextId parts) replies,
          { c with nextId := c.nextId + parts.flatten.length }))
      <$> (numberAll hook c.nextId parts).mapM c.isolate.exchange := by
  induction parts generalizing c with
  | nil => simp [callAll, numberAll, outcomesIn]
  | cons payloads rest ih =>
    rw [callAll, callOne_eq, bind_map_left, numberAll, List.mapM_cons, map_bind]
    refine bind_congr fun reply => ?_
    dsimp only
    rw [ih, bind_map_left, map_bind]
    refine bind_congr fun replies => ?_
    rw [map_pure]
    simp [outcomesIn, Nat.add_assoc]

/-- The calls of a hook that is there. -/
def calling (hook : HookKind) (first : Nat) (payloads : List Json) : Dispatch :=
  let sent := numberAll hook first (batches batchLimit payloads.length payloads)
  ⟨sent, outcomesIn sent⟩

/-- The calls of a hook that is not there. -/
def refusing (hook : HookKind) (payloads : List Json) : Dispatch :=
  ⟨[], fun _ => payloads.map fun _ => .error (.unusable hook)⟩

/-- What a channel makes of a use. -/
def dispatch (c : Channel m) (use : ChannelUse) : Dispatch :=
  if c.hasHook use.hook then calling use.hook c.nextId use.payloads
  else refusing use.hook use.payloads

theorem length_calling (first : Nat) (payloads : List Json) :
    (calling hook first payloads).requests.length = payloads.length := by
  have hlength := congrArg List.length (sends_batches hook first payloads).inOrder
  rwa [List.length_map] at hlength

omit [LawfulMonad m] [Monad m] in
theorem serves_dispatch (c : Channel m) (use : ChannelUse) :
    Serves c.hasHook use (c.dispatch use) := by
  unfold dispatch
  by_cases hhook : c.hasHook use.hook = true
  · rw [if_pos hhook]
    constructor
    case complete =>
      exact fun _ hreplies => (answered_outcomesIn hreplies).length_eq.trans (length_calling _ _)
    case defined =>
      exact fun _ => ⟨⟨c.nextId, sends_batches _ _ _⟩, fun _ => answered_outcomesIn⟩
    case undefined => exact fun h => absurd hhook (by simp [h])
  · rw [if_neg hhook]
    constructor
    case complete => exact fun _ _ => List.length_map _
    case defined => exact fun h => absurd h hhook
    case undefined =>
      refine fun _ => ⟨rfl, fun _ result hresult => ?_⟩
      obtain ⟨_, -, rfl⟩ := List.mem_map.mp hresult
      rfl

omit [LawfulMonad m] [Monad m] in
/-- The calls of a use have the next numbers. -/
theorem ids_dispatch (c : Channel m) (use : ChannelUse) :
    (c.dispatch use).requests.map (·.id)
      = List.range' c.nextId (c.dispatch use).requests.length := by
  unfold dispatch
  split
  · rw [length_calling]
    exact (sends_batches _ _ _).numbers
  · rfl

theorem callBatch_eq (c : Channel m) (hook : HookKind) (payloads : List Json) :
    c.callBatch hook payloads = (fun results =>
        (results, { c with
          nextId := c.nextId + (c.dispatch (.several hook payloads)).requests.length }))
      <$> (c.dispatch (.several hook payloads)).run c.isolate := by
  unfold callBatch
  by_cases hhook : c.hasHook hook = true
  · have hdispatch : c.dispatch (.several hook payloads) = calling hook c.nextId payloads :=
      if_pos hhook
    rw [if_pos hhook, hdispatch, length_calling, callAll_eq, flatten_batches, Dispatch.run,
      Functor.map_map]
    rfl
  · have hdispatch : c.dispatch (.several hook payloads) = refusing hook payloads := if_neg hhook
    rw [if_neg hhook, hdispatch]
    simp [refusing, Dispatch.requests, Dispatch.run]

theorem use_eq (c : Channel m) (use : ChannelUse) :
    c.use use = (fun results =>
        (results, { c with nextId := c.nextId + (c.dispatch use).requests.length }))
      <$> (c.dispatch use).run c.isolate := by
  cases use with
  | several hook payloads => exact c.callBatch_eq hook payloads
  | one hook payload =>
    have hsame : c.dispatch (.one hook payload) = c.dispatch (.several hook [payload]) := rfl
    show _ <$> c.call hook payload = _
    unfold call
    rw [hsame, callBatch_eq, bind_map_left]
    -- One call is a batch of its own, and has one result.
    by_cases hhook : c.hasHook hook = true
    · have hdispatch : c.dispatch (.several hook [payload]) = calling hook c.nextId [payload] :=
        if_pos hhook
      have hbatches : (calling hook c.nextId [payload]).batches
        = [number hook c.nextId [payload]] := rfl
      have hresults : (calling hook c.nextId [payload]).results
        = outcomesIn [number hook c.nextId [payload]] := rfl
      rw [hdispatch, Dispatch.run, hbatches, hresults]
      simp [number, outcomesIn]
    · have hdispatch : c.dispatch (.several hook [payload]) = refusing hook [payload] :=
        if_neg hhook
      rw [hdispatch]
      simp [refusing, Dispatch.requests, Dispatch.run]

/-- A channel sends and answers as it should, over any sequence of uses. -/
theorem exists_servesAll (c : Channel m) (uses : List ChannelUse) :
    ∃ dispatches, ServesAll c uses dispatches := by
  induction uses generalizing c with
  | nil => exact ⟨[], by simp [useAll], .nil, rfl⟩
  | cons use rest ih =>
    obtain ⟨dispatches, hrun, hserves, hnumbers⟩ := ih
      { c with nextId := c.nextId + (c.dispatch use).requests.length }
    refine ⟨c.dispatch use :: dispatches, ?_, .cons (c.serves_dispatch use) hserves, ?_⟩
    · rw [useAll, use_eq, bind_map_left, List.mapM_cons, map_bind]
      refine bind_congr fun results => ?_
      dsimp only
      rw [hrun, bind_map_left, map_bind]
      refine bind_congr fun others => ?_
      rw [map_pure]
      simp [Nat.add_assoc]
    · rw [List.flatMap_cons, List.map_append, List.length_append, ids_dispatch, hnumbers,
        List.range'_append_1]

/-! ### An isolate with disorderly replies -/

/-- An isolate that answers every call twice, the calls in the wrong order and with responses to
other calls in between. It fails in the exchange that starts with the 301st call. -/
def disorderly : Isolate Id where
  load _ _ := pure (.ok ["transformPx"])
  exchange requests :=
    if requests.head?.any (·.id = 301) then pure (.error "lost")
    else pure (.ok (requests.reverse.flatMap fun r =>
      [{ id := r.id, error := some "early" }, { id := r.id, result := some r.payload },
        { id := r.id + 1000, result := some .null }]))

def disorderlyChannel : Channel Id where
  isolate := disorderly
  hooks := [.transformPx]
  fingerprint := ""

/-- More calls than go into one batch, a hook that is not there, and one call more. -/
def disorderlyUses : List ChannelUse :=
  [.several .transformPx (List.replicate 301 (.str "4px")),
    .several .transform [.str "a", .str "b"],
    .one .transformPx (.str "8px")]

theorem disorderly_servesAll :
    (∃ dispatches, ServesAll disorderlyChannel disorderlyUses dispatches)
      ∧ (disorderlyChannel.useAll disorderlyUses).run.1.map List.length = [301, 2, 1]
      ∧ (disorderlyChannel.useAll disorderlyUses).run.2.nextId = 303 :=
  ⟨exists_servesAll disorderlyChannel disorderlyUses, by decide +kernel, by decide +kernel⟩

end Channel

end SceneCompiler
