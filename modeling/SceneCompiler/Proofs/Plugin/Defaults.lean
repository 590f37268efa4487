import SceneCompiler.Proofs.Plugin.Replies
import SceneCompiler.Proofs.Session.Coupled
/-!
# Calls that come to their defaults

A call has no usable value where its hook reports an error, where it has no response, where the
whole batch fails, and where the response is of no use for the hook. It then comes to the default:
to what the payload told the hook.

Plugins are interchangeable if all calls come to the same with one of them and with the other.

* `repaired_settled`: no call comes to something else where failing calls get their defaults.
* `interchangeable_withDefaults`: a plugin, and the same one with defaults for some failing calls.
* `interchangeable_idle`: a plugin whose calls all come to their defaults, and none.
-/

namespace SceneCompiler

/-! ## Defaults -/

namespace HookKind

/-- The key of what a hook may replace, in the payloads of the hook. -/
def defaultKey : HookKind → String
  | transform => "code"
  | transformVariable => "code"
  | transformPx => "value"
  | transformComponent => "component"

/-- The code, the literal or the component that a hook is told. -/
def defaultValue (hook : HookKind) (payload : Json) : Json :=
  (payload.member? hook.defaultKey).getD .null

/-- Whether a value can be used: a text; for variables one that names a token; for components also
a tree. -/
def uses : HookKind → Json → Bool
  | transform, value => value.text?.isSome
  | transformPx, value => value.text?.isSome
  | transformVariable, value =>
    (value.text?.bind TokenExpression.parse?).any fun e => e.name.toList.any (· ≠ '-')
  | transformComponent, value => value.text?.isSome || (ComponentTree.ofJson? value).isSome

/-- What a call with a value, or without one, comes to. -/
def settled (hook : HookKind) (payload : Json) (value : Option Json) : Json :=
  (value.filter hook.uses).getD (hook.defaultValue payload)

theorem settled_default (hook : HookKind) (payload : Json) :
    hook.settled payload (some (hook.defaultValue payload)) = hook.defaultValue payload := by
  unfold settled
  rw [Option.filter_some]
  split <;> rfl

theorem settled_of_usable {hook : HookKind} {value : Json} (h : hook.uses value = true)
    (payload : Json) : hook.settled payload (some value) = value := by
  unfold settled
  rw [Option.filter_some, if_pos h]
  rfl

theorem settled_of_unusable {hook : HookKind} {value : Option Json}
    (h : value.any hook.uses = false) (payload : Json) :
    hook.settled payload value = hook.defaultValue payload := by
  unfold settled
  cases value with
  | none => rfl
  | some value =>
    rw [Option.filter_some, show hook.uses value = false from h]
    rfl

end HookKind

/-- Two lists of answers to the same payloads, of which each comes to the same. -/
inductive AlikeAll (hook : HookKind) :
    List Json → List (Option Json) → List (Option Json) → Prop where
  | nil : AlikeAll hook [] [] []
  | cons {payload : Json} {rest : List Json} {value value' : Option Json}
      {values values' : List (Option Json)} :
      hook.settled payload value = hook.settled payload value' →
      AlikeAll hook rest values values' →
      AlikeAll hook (payload :: rest) (value :: values) (value' :: values')

namespace AlikeAll

variable {hook : HookKind}

theorem append {payloads others : List Json} {values values' more more' : List (Option Json)}
    (h : AlikeAll hook payloads values values') (h' : AlikeAll hook others more more') :
    AlikeAll hook (payloads ++ others) (values ++ more) (values' ++ more') := by
  induction h with
  | nil => exact h'
  | cons hsettled _ ih => exact .cons hsettled ih

/-- The answers to requests are alike if they are request by request. -/
theorem of_requests {f g : HookRequest → Option Json} (requests : List HookRequest)
    (h : ∀ r ∈ requests, hook.settled r.payload (f r) = hook.settled r.payload (g r)) :
    AlikeAll hook (requests.map (·.payload)) (requests.map f) (requests.map g) := by
  induction requests with
  | nil => exact .nil
  | cons r rest ih =>
    refine .cons (h r List.mem_cons_self) (ih fun r' hr' => ?_)
    exact h r' (List.mem_cons_of_mem _ hr')

theorem refl (payloads : List Json) (value : Option Json) :
    AlikeAll hook payloads (payloads.map fun _ => value) (payloads.map fun _ => value) := by
  induction payloads with
  | nil => exact .nil
  | cons payload rest ih => exact .cons rfl ih

end AlikeAll

/-! ## One batch -/

namespace Channel

variable {m : Type → Type} {hook : HookKind}

/-- The outcome of a call, from the answer to its batch. -/
def outcomeIn (answer : Except String (List HookResponse)) (r : HookRequest) :
    Except HookError Json :=
  match answer with
  | .ok responses => outcome r.hook responses r.id
  | .error reason => .error (.exchangeFailed reason)

theorem number_payload (first : Nat) (payloads : List Json) :
    (number hook first payloads).map (·.payload) = payloads := by
  unfold number
  rw [List.map_map]
  exact List.zipIdx_map_fst first payloads

theorem number_id (first : Nat) (payloads : List Json) :
    (number hook first payloads).map (·.id) = List.range' first payloads.length := by
  unfold number
  rw [List.map_map]
  exact List.zipIdx_map_snd first payloads

/-- The numbers of the calls of a batch differ. -/
theorem nodup_number (first : Nat) (payloads : List Json) :
    ((number hook first payloads).map (·.id)).Nodup := by
  rw [number_id]
  exact List.nodup_range'

theorem hook_of_mem_number {first : Nat} {payloads : List Json} {r : HookRequest}
    (hr : r ∈ number hook first payloads) : r.hook = hook := by
  obtain ⟨p, -, rfl⟩ := List.mem_map.mp hr
  rfl

theorem callOne_eq [Monad m] [LawfulMonad m] (c : Channel m) (payloads : List Json) :
    c.callOne hook payloads = (fun answer =>
        ((number hook c.nextId payloads).map (outcomeIn answer),
          { c with nextId := c.nextId + payloads.length }))
      <$> c.isolate.exchange (number hook c.nextId payloads) := by
  unfold callOne
  rw [← bind_pure_comp]
  refine bind_congr fun answer => ?_
  cases answer with
  | error reason => rfl
  | ok responses =>
    have houtcomes : (number hook c.nextId payloads).map (fun r => outcome hook responses r.id)
        = (number hook c.nextId payloads).map (outcomeIn (.ok responses)) := by
      refine List.map_congr_left fun r hr => ?_
      rw [outcomeIn, hook_of_mem_number hr]
    rw [← houtcomes]

/-- The responses that give calls their defaults. -/
def defaultResponses (requests : List HookRequest) : List HookResponse :=
  requests.map fun r => { id := r.id, result := some (r.hook.defaultValue r.payload) }

/-- The answer to a batch with defaults for those calls of a set that have no usable value. -/
def repaired (calls : HookRequest → Bool) (requests : List HookRequest)
    (answer : Except String (List HookResponse)) : Except String (List HookResponse) :=
  let failing := requests.filter fun r =>
    calls r && !(outcomeIn answer r).toOption.any r.hook.uses
  .ok (answer.toOption.getD [] ++ defaultResponses failing)

/-- Calls outside of the requests have the outcomes that they had. -/
theorem outcome_append_defaultResponses (hook : HookKind) {requests : List HookRequest} {id : Nat}
    (hid : ∀ r ∈ requests, r.id ≠ id) (responses : List HookResponse) :
    outcome hook (responses ++ defaultResponses requests) id = outcome hook responses id := by
  have hnone : (defaultResponses requests).reverse.find? (·.id = id) = none := by
    rw [List.find?_eq_none]
    intro response hresponse
    obtain ⟨r, hr, rfl⟩ := List.mem_map.mp (List.mem_reverse.mp hresponse)
    simpa using hid r hr
  unfold outcome
  rw [List.reverse_append, List.find?_append, hnone, Option.none_or]

theorem outcome_defaultResponses (hook : HookKind) {requests : List HookRequest} {r : HookRequest}
    (hids : (requests.map (·.id)).Nodup) (hr : r ∈ requests) (responses : List HookResponse) :
    outcome hook (responses ++ defaultResponses requests) r.id
      = .ok (r.hook.defaultValue r.payload) := by
  have hfound : (defaultResponses requests).reverse.find? (·.id = r.id)
      = some { id := r.id, result := some (r.hook.defaultValue r.payload) } := by
    cases hfind : (defaultResponses requests).reverse.find? (·.id = r.id) with
    | none =>
      have habsent := List.find?_eq_none.mp hfind _
        (List.mem_reverse.mpr (List.mem_map_of_mem hr))
      simp at habsent
    | some response =>
      have hmem := List.mem_reverse.mp (List.mem_of_find?_eq_some hfind)
      obtain ⟨r', hr', rfl⟩ := List.mem_map.mp hmem
      have hid : r'.id = r.id := by simpa using List.find?_some hfind
      rw [List.inj_on_of_nodup_map hids hr' hr hid]
  unfold outcome
  rw [List.reverse_append, List.find?_append, hfound, Option.some_or]

/-- Every call of a batch comes to the same with defaults for some of the failing ones. -/
theorem repaired_settled (calls : HookRequest → Bool) {requests : List HookRequest}
    (hids : (requests.map (·.id)).Nodup) (answer : Except String (List HookResponse))
    {r : HookRequest} (hr : r ∈ requests) :
    r.hook.settled r.payload (outcomeIn (repaired calls requests answer) r).toOption
      = r.hook.settled r.payload (outcomeIn answer r).toOption := by
  by_cases hfailing : (calls r && !(outcomeIn answer r).toOption.any r.hook.uses) = true
  · -- The default is what the call came to before.
    have hunusable : (outcomeIn answer r).toOption.any r.hook.uses = false := by
      simpa using (Bool.and_eq_true_iff.mp hfailing).2
    have houtcome : outcomeIn (repaired calls requests answer) r
        = .ok (r.hook.defaultValue r.payload) := by
      refine outcome_defaultResponses r.hook ?_ (List.mem_filter.mpr ⟨hr, hfailing⟩) _
      exact hids.sublist (List.filter_sublist.map _)
    rw [houtcome, HookKind.settled_of_unusable hunusable]
    exact HookKind.settled_default _ _
  · -- The call has the outcome that it had, or is still without a value.
    have hother : ∀ r' ∈ requests.filter (fun r =>
        calls r && !(outcomeIn answer r).toOption.any r.hook.uses), r'.id ≠ r.id := by
      intro r' hr' hid
      obtain ⟨hmem, hfailing'⟩ := List.mem_filter.mp hr'
      rw [List.inj_on_of_nodup_map hids hmem hr hid] at hfailing'
      exact hfailing hfailing'
    have houtcome := outcome_append_defaultResponses r.hook hother
      (answer.toOption.getD [])
    cases answer with
    | ok responses => exact congrArg (fun o => r.hook.settled r.payload o.toOption) houtcome
    | error reason => exact congrArg (fun o => r.hook.settled r.payload o.toOption) houtcome

end Channel

/-! ## Interchangeable plugins -/

variable {m : Type → Type} [Monad m]

/-- All calls come to the same with related plugins, and the plugins are still related then. -/
def Interchangeable (T : Option (Channel m) → Option (Channel m) → Prop) : Prop :=
  ∀ p p', T p p' → ∀ (hook : HookKind) (payloads : List Json),
    Coupled (fun o o' => AlikeAll hook payloads o.1 o'.1 ∧ T o.2 o'.2)
      (hookAnswers p hook payloads) (hookAnswers p' hook payloads)

/-! ### Defaults for failing calls -/

/-- The isolate with defaults for those calls of a set that have no usable value. -/
def Isolate.withDefaults (i : Isolate m) (calls : HookRequest → Bool) : Isolate m :=
  { i with exchange := fun requests => Channel.repaired calls requests <$> i.exchange requests }

def Channel.withDefaults (c : Channel m) (calls : HookRequest → Bool) : Channel m :=
  { c with isolate := c.isolate.withDefaults calls }

variable [LawfulMonad m] {hook : HookKind}

theorem Channel.callOne_withDefaults (calls : HookRequest → Bool) (c : Channel m)
    (payloads : List Json) :
    Coupled (fun o o' => AlikeAll hook payloads (o.1.map Except.toOption)
        (o'.1.map Except.toOption) ∧ o'.2 = o.2.withDefaults calls)
      (c.callOne hook payloads) ((c.withDefaults calls).callOne hook payloads) := by
  rw [callOne_eq, callOne_eq, ← bind_pure_comp, ← bind_pure_comp]
  refine Coupled.bind (R := fun answer answer' =>
    answer' = repaired calls (number hook c.nextId payloads) answer) ?_ ?_
  · exact coupled_map fun answer => rfl
  · intro answer answer' hrepaired
    subst hrepaired
    refine coupled_pure ⟨?_, rfl⟩
    have hsettled : ∀ r ∈ number hook c.nextId payloads,
        hook.settled r.payload (outcomeIn answer r).toOption = hook.settled r.payload
          (outcomeIn (repaired calls (number hook c.nextId payloads) answer) r).toOption := by
      intro r hr
      have h := repaired_settled calls (nodup_number c.nextId payloads) answer hr
      rw [hook_of_mem_number hr] at h
      exact h.symm
    have halike := AlikeAll.of_requests (number hook c.nextId payloads) hsettled
    rw [number_payload] at halike
    rw [List.map_map, List.map_map]
    exact halike

theorem Channel.callAll_withDefaults (hook : HookKind) (calls : HookRequest → Bool)
    (parts : List (List Json)) :
    ∀ c : Channel m, Coupled (fun o o' => AlikeAll hook parts.flatten (o.1.map Except.toOption)
        (o'.1.map Except.toOption) ∧ o'.2 = o.2.withDefaults calls)
      (c.callAll hook parts) ((c.withDefaults calls).callAll hook parts) := by
  induction parts with
  | nil => exact fun c => coupled_pure ⟨.nil, rfl⟩
  | cons payloads rest ih =>
    intro c
    refine (c.callOne_withDefaults calls payloads).bind fun o o' ho => ?_
    have hrest := ih o.2
    rw [← ho.2] at hrest
    refine hrest.bind fun others others' hothers => ?_
    refine coupled_pure ⟨?_, hothers.2⟩
    rw [List.map_append, List.map_append]
    exact ho.1.append hothers.1

/-- Defaults for failing calls of a plugin make no difference to what its calls come to. -/
theorem interchangeable_withDefaults (calls : HookRequest → Bool) :
    Interchangeable fun p p' : Option (Channel m) => p' = p.map (·.withDefaults calls) := by
  intro p p' hp hook payloads
  subst hp
  cases p with
  | none => exact coupled_pure ⟨.refl payloads none, rfl⟩
  | some c =>
    have hsame : (c.withDefaults calls).hasHook hook = c.hasHook hook := rfl
    rw [Option.map_some]
    by_cases hhook : c.hasHook hook = true
    · rw [hookAnswers_of_hasHook hhook, hookAnswers_of_hasHook (hsame.trans hhook),
        ← bind_pure_comp, ← bind_pure_comp]
      have hcalls := Channel.callAll_withDefaults hook calls
        (Channel.batches batchLimit payloads.length payloads) c
      rw [Channel.flatten_batches] at hcalls
      refine hcalls.bind fun o o' ho => ?_
      exact coupled_pure ⟨ho.1, congrArg some ho.2⟩
    · rw [hookAnswers_of_not_hasHook hhook, hookAnswers_of_not_hasHook (hsame ▸ hhook)]
      exact coupled_pure ⟨.refl payloads none, rfl⟩

/-! ### Plugins without effect -/

/-- Calls leave no trace, and have no usable values but the defaults. An isolate that fails in all
calls is one of this kind, and one that gives back what it is told. -/
def Isolate.Idle (i : Isolate m) : Prop :=
  ∀ (hook : HookKind) (first : Nat) (payloads : List Json),
    Traceless (fun answer => ∀ r ∈ Channel.number hook first payloads, ∀ value,
        Channel.outcomeIn answer r = .ok value → hook.uses value →
          value = hook.defaultValue r.payload)
      (i.exchange (Channel.number hook first payloads))

theorem Channel.callOne_idle {c : Channel m} (hc : c.isolate.Idle) (payloads : List Json) :
    Traceless (fun o =>
        AlikeAll hook payloads (o.1.map Except.toOption) (payloads.map fun _ => none)
          ∧ o.2.isolate.Idle) (c.callOne hook payloads) := by
  rw [callOne_eq, ← bind_pure_comp]
  refine (hc hook c.nextId payloads).bind fun answer hanswer => traceless_pure ⟨?_, hc⟩
  have hsettled : ∀ r ∈ number hook c.nextId payloads,
      hook.settled r.payload (outcomeIn answer r).toOption = hook.settled r.payload none := by
    intro r hr
    cases houtcome : outcomeIn answer r with
    | error e => rfl
    | ok value =>
      by_cases husable : hook.uses value = true
      · rw [hanswer r hr value houtcome husable]
        exact HookKind.settled_default hook r.payload
      · have hunusable : (some value).any hook.uses = false := Bool.eq_false_iff.mpr husable
        exact HookKind.settled_of_unusable hunusable r.payload
  have halike := AlikeAll.of_requests (number hook c.nextId payloads) hsettled
  have hnone : (number hook c.nextId payloads).map (fun _ => (none : Option Json))
      = payloads.map fun _ => none := by
    rw [List.map_const', List.map_const']
    simp [number]
  rw [number_payload, hnone] at halike
  rw [List.map_map]
  exact halike

theorem Channel.callAll_idle (hook : HookKind) (parts : List (List Json)) :
    ∀ c : Channel m, c.isolate.Idle → Traceless (fun o =>
        AlikeAll hook parts.flatten (o.1.map Except.toOption) (parts.flatten.map fun _ => none)
          ∧ o.2.isolate.Idle) (c.callAll hook parts) := by
  induction parts with
  | nil => exact fun c hc => traceless_pure ⟨.nil, hc⟩
  | cons payloads rest ih =>
    intro c hc
    refine (callOne_idle hc payloads).bind fun o ho => ?_
    refine (ih o.2 ho.2).bind fun others hothers => ?_
    refine traceless_pure ⟨?_, hothers.2⟩
    rw [List.flatten_cons, List.map_append, List.map_append]
    exact ho.1.append hothers.1

/-- A plugin whose calls all come to their defaults may as well not be there. -/
theorem interchangeable_idle :
    Interchangeable fun p p' : Option (Channel m) => (∀ c ∈ p, c.isolate.Idle) ∧ p' = none := by
  intro p p' hp hook payloads
  obtain ⟨hidle, rfl⟩ := hp
  cases p with
  | none => exact coupled_pure ⟨.refl payloads none, nofun, rfl⟩
  | some c =>
    by_cases hhook : c.hasHook hook = true
    · rw [hookAnswers_of_hasHook hhook, ← bind_pure_comp]
      have hcalls := Channel.callAll_idle hook
        (Channel.batches batchLimit payloads.length payloads) c (hidle c rfl)
      rw [Channel.flatten_batches] at hcalls
      -- The calls can be left out: on the other side there are none.
      refine hcalls.coupled fun o ho => coupled_pure ⟨ho.1, ?_, rfl⟩
      intro next hnext
      obtain rfl := Option.some.inj hnext
      exact ho.2
    · rw [hookAnswers_of_not_hasHook hhook]
      exact coupled_pure ⟨.refl payloads none, hidle, rfl⟩

/-- An isolate that reports an error for every call. -/
def Isolate.failing (reason : String) : Isolate m where
  load _ _ := pure (.ok (HookKind.all.map (·.name)))
  exchange requests := pure (.ok (requests.map fun r => { id := r.id, error := some reason }))

/-- An isolate that gives back what it is told. -/
def Isolate.echoing : Isolate m where
  load _ _ := pure (.ok (HookKind.all.map (·.name)))
  exchange requests := pure (.ok (Channel.defaultResponses requests))

theorem Isolate.idle_failing (reason : String) : (Isolate.failing reason : Isolate m).Idle := by
  intro hook first payloads
  refine traceless_pure fun r _ value hvalue _ => ?_
  -- The response that counts, if there is one, carries an error.
  unfold Channel.outcomeIn Channel.outcome at hvalue
  cases hfound : ((Channel.number hook first payloads).map fun r =>
      ({ id := r.id, error := some reason } : HookResponse)).reverse.find? (·.id = r.id) with
  | none =>
    dsimp only at hvalue
    rw [hfound] at hvalue
    cases hvalue
  | some response =>
    have hmem := List.mem_reverse.mp (List.mem_of_find?_eq_some hfound)
    obtain ⟨r', -, rfl⟩ := List.mem_map.mp hmem
    dsimp only at hvalue
    rw [hfound] at hvalue
    cases hvalue

theorem Isolate.idle_echoing : (Isolate.echoing : Isolate m).Idle := by
  intro hook first payloads
  refine traceless_pure fun r hr value hvalue _ => ?_
  have houtcome :=
    Channel.outcome_defaultResponses r.hook (Channel.nodup_number first payloads) hr []
  rw [Channel.hook_of_mem_number hr, List.nil_append] at houtcome
  have hvalue : Channel.outcome r.hook _ r.id = .ok value := hvalue
  rw [Channel.hook_of_mem_number hr, houtcome] at hvalue
  exact (Except.ok.inj hvalue).symm

end SceneCompiler
