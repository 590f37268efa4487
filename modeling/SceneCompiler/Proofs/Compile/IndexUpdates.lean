import Mathlib
import SceneCompiler.Compile.Pipeline
import SceneCompiler.Proofs.Operation.Code
import SceneCompiler.Proofs.Token.Candidates
/-!
# Interleaved updates of a token index

A compilation reads the token index of its key, waits for the hook for variables, extends what it
had read and stores that. Compilations with one key that overlap work on copies of the same index,
and the one that stores last wins: what was stored in between is lost, unless it had read it or
extends it by the same variables.

* `Session.tokenIndex_steps`: a compilation alone makes one or two of these steps.
* `complete_step`: what one step keeps, as long as it loses nothing.
* `knowsAll_of_finished`: when all variables are known in the end.
-/

namespace SceneCompiler

/-! ## Steps of overlapping compilations -/

/-- Where a compilation stands. -/
inductive IndexPhase where
  /-- It has read the index, and the hook has not answered yet. -/
  | asking (copy : TokenIndex)
  | finished

def IndexPhase.copy? : IndexPhase → Option TokenIndex
  | asking copy => some copy
  | finished => none

/-- A compilation of a tree of some scene. -/
structure IndexCall where
  scene : SceneGraph
  tree : VisibleTree
  phase : IndexPhase

/-- The known variables that are bound in the tree. -/
def IndexCall.bound (call : IndexCall) : List Variable :=
  call.scene.boundVariables call.tree

def IndexCall.candidates (call : IndexCall) : List TokenCandidate :=
  call.scene.tokenCandidates call.tree

/-- The index that is kept under a key, if there is one, and all compilations with that key in the
order in which they came to it. -/
structure IndexUpdates where
  cached : Option TokenIndex := none
  calls : List IndexCall := []

inductive IndexStep where
  /-- A compilation reads the index. -/
  | enter (scene : SceneGraph) (tree : VisibleTree)
  /-- The hook has answered a compilation, which stores its index. -/
  | store (i : Nat) (chosen : List (Option String))

def IndexStep.isStore : IndexStep → Bool
  | enter _ _ => false
  | store _ _ => true

namespace IndexUpdates

def index (u : IndexUpdates) : TokenIndex :=
  u.cached.getD {}

/-- A compilation as it enters. It has nothing to do if the index is there and complete. -/
def entering (u : IndexUpdates) (g : SceneGraph) (t : VisibleTree) : IndexCall where
  scene := g
  tree := t
  phase := if u.cached.isSome && (u.index.missing (g.tokenCandidates t)).isEmpty then .finished
    else .asking u.index

def enter (u : IndexUpdates) (g : SceneGraph) (t : VisibleTree) : IndexUpdates :=
  { u with calls := u.calls ++ [u.entering g t] }

def store? (u : IndexUpdates) (i : Nat) (chosen : List (Option String)) : Option IndexUpdates := do
  let call ← u.calls[i]?
  let copy ← call.phase.copy?
  return { cached := some (copy.extend (copy.missing call.candidates) chosen)
           calls := u.calls.set i { call with phase := .finished } }

def step? (u : IndexUpdates) : IndexStep → Option IndexUpdates
  | .enter g t => some (u.enter g t)
  | .store i chosen => u.store? i chosen

def run? (u : IndexUpdates) (steps : List IndexStep) : Option IndexUpdates :=
  steps.foldlM step? u

/-! ### What a step can do -/

variable {u v : IndexUpdates} {g : SceneGraph} {t : VisibleTree} {i : Nat}
variable {chosen : List (Option String)}

/-- A compilation that waits for the hook has read an index. -/
def Asks (u : IndexUpdates) (i : Nat) (call : IndexCall) (copy : TokenIndex) : Prop :=
  u.calls[i]? = some call ∧ call.phase = .asking copy

theorem copy?_eq_some {phase : IndexPhase} {copy : TokenIndex} :
    phase.copy? = some copy ↔ phase = .asking copy := by
  cases phase with
  | asking read => simp [IndexPhase.copy?]
  | finished => simp [IndexPhase.copy?]

theorem store?_eq_some : u.store? i chosen = some v ↔ ∃ call copy, u.Asks i call copy
    ∧ v = { cached := some (copy.extend (copy.missing call.candidates) chosen)
            calls := u.calls.set i { call with phase := .finished } } := by
  simp [store?, Asks, Option.bind_eq_some_iff, copy?_eq_some, and_assoc, eq_comm (b := v)]

theorem mem_candidates {call : IndexCall} {id : VariableId} :
    (∃ c ∈ call.candidates, id = c.id) ↔ ∃ w ∈ call.bound, w.id = id := by
  unfold IndexCall.candidates IndexCall.bound
  rw [SceneGraph.tokenCandidates_eq]
  constructor
  · intro h
    obtain ⟨c, hc, rfl⟩ := h
    obtain ⟨w, hw, rfl⟩ := List.mem_map.mp hc
    exact ⟨w, hw, rfl⟩
  · intro h
    obtain ⟨w, hw, rfl⟩ := h
    exact ⟨_, List.mem_map_of_mem hw, rfl⟩

/-- An index that was extended by what it lacked knows what it knew and all candidates. -/
theorem knows_extend_missing (x : TokenIndex) (cs : List TokenCandidate)
    (chosen : List (Option String)) (id : VariableId) :
    (x.extend (x.missing cs) chosen).knows id ↔ x.knows id ∨ ∃ c ∈ cs, id = c.id := by
  rw [TokenIndex.knows_extend, Bool.or_eq_true, List.any_eq_true]
  constructor
  · intro h
    apply h.imp_right
    intro hadded
    obtain ⟨c, hc, heq⟩ := hadded
    exact ⟨c, (List.mem_filter.mp hc).1, beq_iff_eq.mp heq⟩
  · intro h
    by_cases hknown : x.knows id
    · exact Or.inl hknown
    · obtain ⟨c, hc, rfl⟩ := h.resolve_left hknown
      have hmissing : c ∈ x.missing cs := List.mem_filter.mpr ⟨hc, by simpa using hknown⟩
      exact Or.inr ⟨c, hmissing, by simp⟩

/-- After a store the index knows what its compilation had read, and the variables bound in its
tree. -/
theorem knows_store {call : IndexCall} {copy : TokenIndex} (hcall : u.Asks i call copy)
    (hv : u.store? i chosen = some v) (id : VariableId) :
    v.index.knows id ↔ copy.knows id ∨ ∃ w ∈ call.bound, w.id = id := by
  obtain ⟨call', copy', hcall', rfl⟩ := store?_eq_some.mp hv
  obtain rfl := Option.some.inj (hcall'.1.symm.trans hcall.1)
  obtain rfl := IndexPhase.asking.inj (hcall'.2.symm.trans hcall.2)
  rw [← mem_candidates]
  exact knows_extend_missing _ _ _ id

/-- A compilation finishes at once only if the index knows all that is bound in its tree. -/
theorem knows_of_entering (h : (u.entering g t).phase = .finished) :
    ∀ w ∈ g.boundVariables t, u.index.knows w.id := by
  intro w hw
  have hcomplete : (u.index.missing (g.tokenCandidates t)).isEmpty = true := by
    unfold entering at h
    dsimp only at h
    split at h
    · next hall => exact (Bool.and_eq_true _ _ ▸ hall).2
    · cases h
  by_contra hunknown
  have hcandidate : VariableTable.candidate g.variableTable w ∈ g.tokenCandidates t := by
    rw [SceneGraph.tokenCandidates_eq]
    exact List.mem_map_of_mem hw
  have hmissing : VariableTable.candidate g.variableTable w
      ∈ u.index.missing (g.tokenCandidates t) := by
    refine List.mem_filter.mpr ⟨hcandidate, ?_⟩
    show (!u.index.knows w.id) = true
    simpa using hunknown
  rw [List.isEmpty_iff.mp hcomplete] at hmissing
  cases hmissing

/-! ## What the steps keep -/

/-- The index knows every variable bound in the tree of a compilation that has finished. -/
def Complete (u : IndexUpdates) : Prop :=
  ∀ call ∈ u.calls, call.phase = .finished → ∀ w ∈ call.bound, u.index.knows w.id

/-- A step stores an index without a variable bound in the tree of a compilation that has
finished. -/
def Loses (u : IndexUpdates) (step : IndexStep) : Prop :=
  ∃ i chosen call copy, step = .store i chosen ∧ u.Asks i call copy
    ∧ ∃ other ∈ u.calls, other.phase = .finished
      ∧ ∃ w ∈ other.bound, ¬ copy.knows w.id ∧ ¬ ∃ w' ∈ call.bound, w'.id = w.id

theorem mem_calls_set {call other : IndexCall}
    (h : other ∈ u.calls.set i { call with phase := .finished }) :
    other ∈ u.calls ∨ other = { call with phase := .finished } :=
  List.mem_or_eq_of_mem_set h

/-- One step keeps the index complete unless it loses something. -/
theorem complete_step (hu : u.Complete) {step : IndexStep} (hv : u.step? step = some v)
    (hstep : ¬ u.Loses step) : v.Complete := by
  cases step with
  | enter g t =>
    obtain rfl := Option.some.inj hv
    intro call hcall hfinished w hw
    -- The index stays as it is; only the call that enters is new.
    rcases List.mem_append.mp hcall with hold | hnew
    · exact hu call hold hfinished w hw
    · obtain rfl := List.mem_singleton.mp hnew
      exact knows_of_entering hfinished w hw
  | store i chosen =>
    have hstore : u.store? i chosen = some v := hv
    obtain ⟨call, copy, hcall, heq⟩ := store?_eq_some.mp hstore
    intro other hother hfinished w hw
    apply (knows_store hcall hstore w.id).mpr
    rw [heq] at hother
    rcases mem_calls_set hother with hold | rfl
    · by_contra hlost
      rw [not_or] at hlost
      exact hstep ⟨i, chosen, call, copy, rfl, hcall, other, hold, hfinished, w, hw, hlost⟩
    · exact Or.inr ⟨w, hw, rfl⟩

/-- A compilation that stores what it read last, extended, loses nothing. -/
theorem not_loses_of_current (hu : u.Complete)
    (hcurrent : ∀ call copy, u.Asks i call copy → copy = u.index) :
    ¬ u.Loses (.store i chosen) := by
  intro hloses
  obtain ⟨j, _, call, copy, hstep, hcall, other, hother, hfinished, w, hw, hunknown, -⟩ := hloses
  obtain ⟨rfl, -⟩ := IndexStep.store.inj hstep
  apply hunknown
  rw [hcurrent call copy hcall]
  exact hu other hother hfinished w hw

/-! ## Runs -/

/-- No step of a run loses anything. -/
def Lossless (u : IndexUpdates) : List IndexStep → Prop
  | [] => True
  | step :: rest => ¬ u.Loses step ∧ ∀ v, u.step? step = some v → v.Lossless rest

theorem run?_cons {step : IndexStep} {rest : List IndexStep} :
    u.run? (step :: rest) = some v ↔ ∃ w, u.step? step = some w ∧ w.run? rest = some v := by
  simp [run?, List.foldlM_cons, Option.bind_eq_some_iff]

theorem run?_append {before after : List IndexStep} :
    u.run? (before ++ after) = some v ↔ ∃ w, u.run? before = some w ∧ w.run? after = some v := by
  simp [run?, List.foldlM_append, Option.bind_eq_some_iff]

/-- A run that loses nothing keeps the index complete. -/
theorem complete_run {steps : List IndexStep} (hu : u.Complete) (hrun : u.run? steps = some v)
    (hsteps : u.Lossless steps) : v.Complete := by
  induction steps generalizing u with
  | nil =>
    obtain rfl := Option.some.inj hrun
    exact hu
  | cons step rest ih =>
    obtain ⟨w, hstep, hrest⟩ := run?_cons.mp hrun
    exact ih (complete_step hu hstep hsteps.1) hrest (hsteps.2 w hstep)

/-- Only stores change the index. -/
theorem index_of_run {steps : List IndexStep} (hrun : u.run? steps = some v)
    (hsteps : ∀ step ∈ steps, step.isStore = false) : v.index = u.index := by
  induction steps generalizing u with
  | nil =>
    obtain rfl := Option.some.inj hrun
    rfl
  | cons step rest ih =>
    obtain ⟨w, hstep, hrest⟩ := run?_cons.mp hrun
    have hkept : w.index = u.index := by
      cases step with
      | enter g t =>
        obtain rfl := Option.some.inj hstep
        rfl
      | store i chosen => cases hsteps _ List.mem_cons_self
    rw [ih hrest fun s hs => hsteps s (List.mem_cons_of_mem _ hs), hkept]

/-- The last store of a run is that of a compilation which had read some index. -/
def LastStore (start : Option TokenIndex) (steps : List IndexStep) (call : IndexCall)
    (copy : TokenIndex) : Prop :=
  ∃ before i chosen after u, steps = before ++ .store i chosen :: after
    ∧ (∀ step ∈ after, step.isStore = false)
    ∧ run? { cached := start } before = some u ∧ u.Asks i call copy

/-- The index knows every variable bound in the tree of any compilation. -/
def KnowsAll (u : IndexUpdates) : Prop :=
  ∀ call ∈ u.calls, ∀ w ∈ call.bound, u.index.knows w.id

/-- Once all compilations have finished, in whatever order their steps were made and whatever names
hooks chose, the index knows all variables bound in their trees if no store lost any. And whether or
not one did, it knows all of them just when the compilation that stored last had read or has bound
each of them. -/
theorem knowsAll_of_finished {start : Option TokenIndex} {steps : List IndexStep}
    (hrun : run? { cached := start } steps = some u)
    (hdone : ∀ call ∈ u.calls, call.phase = .finished) :
    (Lossless { cached := start } steps → u.KnowsAll)
      ∧ ∀ call copy, LastStore start steps call copy →
        (u.KnowsAll ↔ ∀ other ∈ u.calls, ∀ w ∈ other.bound,
          copy.knows w.id ∨ ∃ w' ∈ call.bound, w'.id = w.id) := by
  constructor
  · intro hsteps other hother w hw
    have hstart : Complete { cached := start } := by
      intro call hcall
      cases hcall
    exact complete_run hstart hrun hsteps other hother (hdone other hother) w hw
  · intro call copy hlast
    obtain ⟨before, i, chosen, after, v, rfl, hafter, hbefore, hcall⟩ := hlast
    obtain ⟨v', hv', hrest⟩ := run?_append.mp hrun
    obtain rfl := Option.some.inj (hbefore.symm.trans hv')
    obtain ⟨stored, hstore, hrest⟩ := run?_cons.mp hrest
    have hknows := knows_store hcall hstore
    unfold KnowsAll
    simp only [index_of_run hrest hafter, hknows]

/-! ### Two frames of one scene -/

/-- A compilation of one frame of the scene whose names collide. -/
def frameCall (id : String) (phase : IndexPhase) : IndexCall where
  scene := collidingScene
  tree := collidingScene.visibleTree [⟨id⟩] {}
  phase

def enterFrame (id : String) : IndexStep :=
  .enter collidingScene (collidingScene.visibleTree [⟨id⟩] {})

/-- One compilation after the other: the second one reads what the first one stored. -/
theorem knowsAll_of_sequence :
    ∃ u, run? {} ([enterFrame "1:1", .store 0 [], enterFrame "1:2"] ++ [.store 1 []]) = some u
      ∧ (∀ call ∈ u.calls, call.phase = .finished) ∧ u.KnowsAll := by
  have hread : ∀ w ∈ (frameCall "1:1" .finished).bound, (({} : TokenIndex).extend
      (({} : TokenIndex).missing (frameCall "1:1" .finished).candidates) []).knows w.id := by
    decide +kernel
  have hlacks : (({} : TokenIndex).extend (({} : TokenIndex).missing
      (frameCall "1:1" .finished).candidates) []).missing (frameCall "1:2" .finished).candidates
      ≠ [] := by decide +kernel
  have hstored : run? {} [enterFrame "1:1", .store 0 []] = some {
      cached := some (({} : TokenIndex).extend
        (({} : TokenIndex).missing (frameCall "1:1" .finished).candidates) [])
      calls := [frameCall "1:1" .finished] } := rfl
  revert hread hlacks hstored
  generalize (({} : TokenIndex).extend
    (({} : TokenIndex).missing (frameCall "1:1" .finished).candidates) []) = x
  intro hread hlacks hstored
  have hphase : (if (some x).isSome && (x.missing (frameCall "1:2" .finished).candidates).isEmpty
      then IndexPhase.finished else .asking x) = .asking x := if_neg (by simpa using hlacks)
  have hentered : enter { cached := some x, calls := [frameCall "1:1" .finished] } collidingScene
      (collidingScene.visibleTree [⟨"1:2"⟩] {}) = {
        cached := some x
        calls := [frameCall "1:1" .finished, frameCall "1:2" (.asking x)] } :=
    congrArg (fun phase => IndexUpdates.mk (some x)
      [frameCall "1:1" .finished, frameCall "1:2" phase]) hphase
  have hbefore : run? {} ([enterFrame "1:1", .store 0 []] ++ [enterFrame "1:2"]) = some {
      cached := some x
      calls := [frameCall "1:1" .finished, frameCall "1:2" (.asking x)] } :=
    run?_append.mpr ⟨_, hstored, congrArg some hentered⟩
  have hrun : run? {} ([enterFrame "1:1", .store 0 [], enterFrame "1:2"] ++ [.store 1 []]) = some {
      cached := some (x.extend (x.missing (frameCall "1:2" .finished).candidates) [])
      calls := [frameCall "1:1" .finished, frameCall "1:2" .finished] } :=
    run?_append.mpr ⟨_, hbefore, rfl⟩
  have hdone : ∀ call ∈ [frameCall "1:1" .finished, frameCall "1:2" .finished],
      call.phase = .finished := by simp [frameCall]
  have hlast : LastStore none ([enterFrame "1:1", .store 0 [], enterFrame "1:2"] ++ [.store 1 []])
      (frameCall "1:2" (.asking x)) x :=
    ⟨_, 1, [], [], _, rfl, by simp, hbefore, rfl, rfl⟩
  refine ⟨_, hrun, hdone, ((knowsAll_of_finished hrun hdone).2 _ _ hlast).mpr ?_⟩
  intro other hother w hw
  rcases List.mem_pair.mp hother with rfl | rfl
  · exact Or.inl (hread w hw)
  · exact Or.inr ⟨w, hw, rfl⟩

/-- Two compilations that overlap: both read that there is no index, and the second one stores an
index without the variable that the first one had stored. -/
theorem not_knowsAll_of_overlap :
    ∃ u, run? {} [enterFrame "1:1", enterFrame "1:2", .store 0 [], .store 1 []] = some u
      ∧ u.calls = [frameCall "1:1" .finished, frameCall "1:2" .finished]
      ∧ (frameCall "1:1" .finished).bound.map (·.id) = [⟨"v:a"⟩]
      ∧ u.index.knows ⟨"v:a"⟩ = false ∧ ¬ u.KnowsAll := by
  have hbound : (frameCall "1:1" .finished).bound.map (·.id) = [⟨"v:a"⟩] := by decide +kernel
  refine ⟨_, rfl, rfl, hbound, by decide +kernel, fun hall => ?_⟩
  obtain ⟨w, hw, hid⟩ := List.mem_map.mp (hbound ▸ List.mem_singleton_self (VariableId.mk "v:a"))
  have hknown := hall (frameCall "1:1" .finished) List.mem_cons_self w hw
  rw [hid] at hknown
  exact absurd hknown (by decide +kernel)

end IndexUpdates

/-! ## One compilation alone -/

/-- A compilation that is alone makes these steps to the index of its key, and works with the index
that is kept then. -/
theorem Session.tokenIndex_steps {m : Type → Type} [Monad m] [LawfulMonad m]
    (plugin : Option (Channel m)) (g : SceneGraph) (t : VisibleTree) (options : CompileOptions)
    (c : Caches m) :
    Ensures (Session.tokenIndex plugin (g.tokenCandidates t) options) c fun o d =>
      d.tokenIndexes[CacheKey.of options.scale (plugin.map (·.fingerprint))]? = some o.1
        ∧ ∃ steps, IndexUpdates.run?
            { cached := c.tokenIndexes[CacheKey.of options.scale (plugin.map (·.fingerprint))]? }
            steps
          = some { cached :=
                     d.tokenIndexes[CacheKey.of options.scale (plugin.map (·.fingerprint))]?
                   calls := [⟨g, t, .finished⟩] } := by
  unfold Session.tokenIndex
  refine ensures_get_bind ?_
  generalize CacheKey.of options.scale (plugin.map (·.fingerprint)) = key
  dsimp only
  split
  · next hhit =>
    have hphase : IndexUpdates.entering { cached := c.tokenIndexes[key]? } g t
        = ⟨g, t, .finished⟩ := congrArg (IndexCall.mk g t) (if_pos hhit)
    refine ensures_pure ⟨?_, [.enter g t], ?_⟩
    · obtain ⟨x, hx⟩ := Option.isSome_iff_exists.mp (Bool.and_eq_true _ _ ▸ hhit).1
      rw [hx]
      rfl
    · simp [IndexUpdates.run?, IndexUpdates.step?, IndexUpdates.enter, hphase]
  · next hmiss =>
    have hphase : IndexUpdates.entering { cached := c.tokenIndexes[key]? } g t
        = ⟨g, t, .asking (c.tokenIndexes[key]?.getD {})⟩ :=
      congrArg (IndexCall.mk g t) (if_neg hmiss)
    refine (ensures_lift_any _).bind fun answers d hd => ?_
    subst hd
    refine (ensures_modify (p := fun _ d => d = Caches.storeTokenIndex _ _ _) rfl).bind ?_
    intro _ d hd
    subst hd
    refine ensures_pure ⟨Std.ExtTreeMap.getElem?_insert_self, [.enter g t, .store 0 answers.1], ?_⟩
    simp [IndexUpdates.run?, IndexUpdates.step?, IndexUpdates.enter, hphase, IndexUpdates.store?,
      IndexPhase.copy?, IndexCall.candidates, Caches.storeTokenIndex]

end SceneCompiler
