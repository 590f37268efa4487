import Mathlib
import SceneCompiler.Compile.Hooks
/-!
# What hooks answer

Calls of a hook go to the isolate in batches and with numbers. Where the isolate answers each call
by its hook and its payload alone, so do the hooks of the plugin: neither the numbers that earlier
calls have used up nor the other payloads of a call make a difference.

* `hookAnswers_same`: calls change nothing in a plugin but the number of its next call.
* `hookAnswers_gives`: the answers to a list of payloads.
-/

namespace SceneCompiler

/-! ## Isolates -/

namespace Channel

/-- What the calls of one batch come to, where they have a value. -/
def values (hook : HookKind) (requests : List HookRequest) :
    Except String (List HookResponse) → List (Option Json)
  | .ok responses => requests.map fun r => (outcome hook responses r.id).toOption
  | .error _ => requests.map fun _ => none

end Channel

/-- The isolate answers each call by its hook and its payload, whatever number the call has and
whatever other calls are in its batch. -/
def Isolate.Replies (i : Isolate Id) (reply : HookKind → Json → Option Json) : Prop :=
  ∀ (hook : HookKind) (first : Nat) (payloads : List Json),
    Channel.values hook (Channel.number hook first payloads)
      (i.exchange (Channel.number hook first payloads)).run = payloads.map (reply hook)

/-! ## Plugins -/

/-- Two plugins that differ in the number of the next call at most. -/
inductive SamePlugin {m : Type → Type} : Option (Channel m) → Option (Channel m) → Prop where
  | none : SamePlugin none none
  | some (c : Channel m) (nextId : Nat) : SamePlugin (some c) (some { c with nextId })

theorem SamePlugin.refl {m : Type → Type} : ∀ plugin : Option (Channel m), SamePlugin plugin plugin
  | Option.none => .none
  | Option.some c => .some c c.nextId

theorem SamePlugin.trans {m : Type → Type} {p p' p'' : Option (Channel m)} (h : SamePlugin p p')
    (h' : SamePlugin p' p'') : SamePlugin p p'' := by
  cases h with
  | none => exact h'
  | some c nextId =>
    cases h' with
    | some _ nextId' => exact .some c nextId'

theorem SamePlugin.fingerprint {m : Type → Type} {p p' : Option (Channel m)} (h : SamePlugin p p') :
    p'.map (·.fingerprint) = p.map (·.fingerprint) := by
  cases h <;> rfl

/-- The hooks of the plugin have these answers. A hook that is not there has none. -/
def Gives (plugin : Option (Channel Id)) (answer : HookKind → Json → Option Json) : Prop :=
  match plugin with
  | none => ∀ hook payload, answer hook payload = none
  | some c => ∃ reply, c.isolate.Replies reply
      ∧ ∀ hook payload, answer hook payload = if c.hasHook hook then reply hook payload else none

theorem Gives.same {p p' : Option (Channel Id)} {answer : HookKind → Json → Option Json}
    (h : Gives p answer) (hsame : SamePlugin p p') : Gives p' answer := by
  cases hsame with
  | none => exact h
  | some c nextId => exact h

/-! ## Batches -/

namespace Channel

theorem flatten_batches {α : Type} (size fuel : Nat) :
    ∀ items : List α, (batches size fuel items).flatten = items := by
  induction fuel with
  | zero => intro items; cases items <;> simp [batches]
  | succ fuel ih =>
    intro items
    cases items with
    | nil => rfl
    | cons item rest =>
      rw [batches, List.flatten_cons, ih, List.take_append_drop]
      exact nofun

theorem callOne_snd (c : Channel Id) (hook : HookKind) (payloads : List Json) :
    (c.callOne hook payloads).run.2 = { c with nextId := c.nextId + payloads.length } := by
  unfold callOne
  dsimp only [Id.run_bind]
  split <;> rfl

theorem callOne_fst (c : Channel Id) (hook : HookKind) (payloads : List Json) :
    (c.callOne hook payloads).run.1.map Except.toOption = values hook
      (number hook c.nextId payloads) (c.isolate.exchange (number hook c.nextId payloads)).run := by
  unfold callOne values
  rw [Id.run_bind]
  cases (c.isolate.exchange (number hook c.nextId payloads)).run with
  | ok responses => simp
  | error reason => simp [Except.toOption]

theorem callAll_snd (hook : HookKind) (parts : List (List Json)) :
    ∀ c : Channel Id, ∃ nextId, (c.callAll hook parts).run.2 = { c with nextId } := by
  induction parts with
  | nil => exact fun c => ⟨c.nextId, rfl⟩
  | cons payloads rest ih =>
    intro c
    obtain ⟨nextId, h⟩ := ih (c.callOne hook payloads).run.2
    refine ⟨nextId, ?_⟩
    show ((c.callOne hook payloads).run.2.callAll hook rest).run.2 = _
    rw [h, callOne_snd]

/-- Over an isolate that answers by payload the answers are those of the payloads one by one. -/
theorem callAll_fst {hook : HookKind} {reply : HookKind → Json → Option Json}
    (parts : List (List Json)) :
    ∀ c : Channel Id, c.isolate.Replies reply →
      (c.callAll hook parts).run.1.map Except.toOption = parts.flatten.map (reply hook) := by
  induction parts with
  | nil => exact fun _ _ => rfl
  | cons payloads rest ih =>
    intro c hc
    have hnext : (c.callOne hook payloads).run.2.isolate.Replies reply := by
      rw [callOne_snd]
      exact hc
    show ((c.callOne hook payloads).run.1
      ++ ((c.callOne hook payloads).run.2.callAll hook rest).run.1).map Except.toOption = _
    rw [List.map_append, callOne_fst, hc, ih _ hnext, List.flatten_cons, List.map_append]

end Channel

/-! ## Calls -/

section Hooks

variable {m : Type → Type} [Monad m] {c : Channel m} {hook : HookKind}

theorem hookAnswers_of_hasHook [LawfulMonad m] (h : c.hasHook hook = true) (payloads : List Json) :
    hookAnswers (some c) hook payloads = (fun o => (o.1.map Except.toOption, some o.2))
      <$> c.callAll hook (Channel.batches batchLimit payloads.length payloads) := by
  unfold hookAnswers Channel.callBatch
  rw [Option.filter_some, if_pos h]
  dsimp only
  rw [if_pos h, ← bind_pure_comp]

theorem hookAnswers_of_not_hasHook (h : ¬ c.hasHook hook = true) (payloads : List Json) :
    hookAnswers (some c) hook payloads = pure (payloads.map fun _ => none, some c) := by
  unfold hookAnswers
  rw [Option.filter_some, if_neg h]

end Hooks

/-- Calls change nothing in a plugin but the number of its next call. -/
theorem hookAnswers_same (plugin : Option (Channel Id)) (hook : HookKind) (payloads : List Json) :
    SamePlugin plugin (hookAnswers plugin hook payloads).run.2 := by
  cases plugin with
  | none => exact .none
  | some c =>
    by_cases hhook : c.hasHook hook = true
    · rw [hookAnswers_of_hasHook hhook]
      obtain ⟨nextId, h⟩ := c.callAll_snd hook (Channel.batches batchLimit payloads.length payloads)
      show SamePlugin (some c) (some (c.callAll hook _).run.2)
      rw [h]
      exact .some c nextId
    · rw [hookAnswers_of_not_hasHook hhook]
      exact .refl (some c)

theorem hookTexts_same (plugin : Option (Channel Id)) (hook : HookKind) (payloads : List Json) :
    SamePlugin plugin (hookTexts plugin hook payloads).run.2 :=
  hookAnswers_same plugin hook payloads

variable {plugin : Option (Channel Id)} {answer : HookKind → Json → Option Json}

/-- The answers to a list of payloads. -/
theorem hookAnswers_gives (h : Gives plugin answer) (hook : HookKind) (payloads : List Json) :
    (hookAnswers plugin hook payloads).run.1 = payloads.map (answer hook) := by
  cases plugin with
  | none =>
    show payloads.map (fun _ => none) = _
    exact List.map_congr_left fun payload _ => (h hook payload).symm
  | some c =>
    obtain ⟨reply, hreply, hanswer⟩ := h
    by_cases hhook : c.hasHook hook = true
    · rw [hookAnswers_of_hasHook hhook]
      show (c.callAll hook _).run.1.map Except.toOption = _
      rw [Channel.callAll_fst _ c hreply, Channel.flatten_batches]
      refine List.map_congr_left fun payload _ => ?_
      rw [hanswer, if_pos hhook]
    · rw [hookAnswers_of_not_hasHook hhook]
      show payloads.map (fun _ => none) = _
      refine List.map_congr_left fun payload _ => ?_
      rw [hanswer, if_neg hhook]

theorem hookTexts_gives (h : Gives plugin answer) (hook : HookKind) (payloads : List Json) :
    (hookTexts plugin hook payloads).run.1
      = payloads.map fun payload => (answer hook payload).bind Json.text? := by
  show ((hookAnswers plugin hook payloads).run.1.map fun o => o.bind Json.text?) = _
  rw [hookAnswers_gives h, List.map_map]
  rfl

/-! ## Stages -/

/-- Where all plugins with the same answers lead to the same value there is one such value. -/
theorem exists_common {α : Type} [Inhabited α] (answer : HookKind → Json → Option Json)
    (f : Option (Channel Id) → α)
    (hf : ∀ p p', Gives p answer → Gives p' answer → f p = f p') :
    ∃ value, ∀ p, Gives p answer → f p = value := by
  by_cases h : ∃ p, Gives p answer
  · obtain ⟨p₀, h₀⟩ := h
    exact ⟨f p₀, fun p hp => hf p p₀ hp h₀⟩
  · exact ⟨default, fun p hp => absurd ⟨p, hp⟩ h⟩

theorem transformPixels_same (plugin : Option (Channel Id)) (styles : StyleMap) :
    SamePlugin plugin (transformPixels plugin styles).run.2 :=
  hookTexts_same plugin _ _

theorem ruleBodies_same (plugin : Option (Channel Id)) (order : List NodeId) (styles : StyleMap) :
    SamePlugin plugin (ruleBodies plugin order styles).run.2 :=
  hookTexts_same plugin _ _

theorem componentCode_same (plugin : Option (Channel Id)) (t : ComponentTree) :
    SamePlugin plugin (componentCode plugin t).run.2 :=
  hookAnswers_same plugin _ _

/-- Pixel literals become the same for all plugins with the same answers. -/
theorem transformPixels_gives (answer : HookKind → Json → Option Json) (styles : StyleMap) :
    ∃ replaced : StyleMap, ∀ plugin : Option (Channel Id), Gives plugin answer →
      (transformPixels plugin styles).run.1 = replaced := by
  refine exists_common answer _ fun p p' hp hp' => ?_
  unfold transformPixels
  dsimp only [Id.run_bind]
  rw [hookTexts_gives hp, hookTexts_gives hp']
  rfl

/-- So do the bodies of rules. -/
theorem ruleBodies_gives (answer : HookKind → Json → Option Json) (order : List NodeId)
    (styles : StyleMap) :
    ∃ bodies : Std.ExtTreeMap NodeId String, ∀ plugin : Option (Channel Id), Gives plugin answer →
      (ruleBodies plugin order styles).run.1 = bodies := by
  refine exists_common answer _ fun p p' hp hp' => ?_
  unfold ruleBodies
  dsimp only [Id.run_bind]
  rw [hookTexts_gives hp, hookTexts_gives hp']
  rfl

/-- So does the code of a component. -/
theorem componentCode_gives (answer : HookKind → Json → Option Json) (t : ComponentTree) :
    ∃ code : String, ∀ plugin : Option (Channel Id), Gives plugin answer →
      (componentCode plugin t).run.1 = code := by
  refine exists_common answer _ fun p p' hp hp' => ?_
  unfold componentCode
  dsimp only [Id.run_bind]
  rw [hookAnswers_gives hp, hookAnswers_gives hp']
  rfl

end SceneCompiler
