import SceneCompiler.Proofs.Compile.Defaults
import SceneCompiler.Proofs.Operation.History
/-!
# Calls that fail are no calls

Where calls of hooks have no usable value a compilation goes on with the defaults. On a fresh
session it has the result that it has when those calls are answered with their defaults; and if
there are no usable values but the defaults, the result that it has without the plugin.

* `compile_coupled`: compilations whose plugins load in the same way and are interchangeable.
* `compile_defaults`: defaults for any set of failing calls, and plugins without effect.
-/

namespace SceneCompiler

variable {m : Type → Type} [Monad m]

/-! ## Isolates with defaults -/

/-- Isolates with defaults for those calls of a set that have no usable value. -/
def IsolateFactory.withDefaults (f : IsolateFactory m) (calls : HookRequest → Bool) :
    IsolateFactory m where
  spawn := (fun spawned => spawned.map (·.withDefaults calls)) <$> f.spawn

namespace Session

/-- The session with another source of isolates. -/
def withIsolates (s : Session m) (isolates : Option (IsolateFactory m)) : Session m :=
  { s with isolates }

def withDefaults (s : Session m) (calls : HookRequest → Bool) : Session m :=
  s.withIsolates (s.isolates.map (·.withDefaults calls))

/-- The plugin for the code that a request uses, if it uses any. -/
def load (s : Session m) : Option String → m (Except SessionError (Option (Channel m)))
  | some code => Except.map some <$> s.loadPlugin code
  | none => return .ok none

/-- The plugin for some code loads without a trace, and has no effect. -/
def LoadsIdle (s : Session m) (code : Option String) : Prop :=
  ∀ source, code = some source →
    Traceless (fun loaded => ∃ channel, loaded = .ok channel ∧ channel.isolate.Idle)
      (s.loadPlugin source)

end Session

variable [LawfulMonad m]

theorem Channel.load_withDefaults (isolate : Isolate m) (calls : HookRequest → Bool)
    (code : String) :
    Channel.load (isolate.withDefaults calls) code
      = (fun loaded => loaded.map (·.withDefaults calls)) <$> Channel.load isolate code := by
  unfold Channel.load
  cases checkSource code with
  | error e =>
    dsimp only
    rw [map_pure]
    rfl
  | ok _ =>
    dsimp only
    rw [map_bind]
    refine bind_congr fun names => ?_
    cases names with
    | error reason =>
      dsimp only
      rw [map_pure]
      rfl
    | ok names =>
      dsimp only
      rw [map_pure]
      rfl

namespace Session

theorem loadPlugin_withDefaults (s : Session m) (calls : HookRequest → Bool) (code : String) :
    (s.withDefaults calls).loadPlugin code
      = (fun loaded => loaded.map (·.withDefaults calls)) <$> s.loadPlugin code := by
  have hisolates : (s.withDefaults calls).isolates = s.isolates.map (·.withDefaults calls) := rfl
  unfold loadPlugin
  rw [hisolates]
  cases s.isolates with
  | none =>
    dsimp only [Option.map_none]
    rw [map_pure]
    rfl
  | some factory =>
    dsimp only [Option.map_some]
    rw [map_bind]
    unfold IsolateFactory.withDefaults
    rw [bind_map_left]
    refine bind_congr fun spawned => ?_
    cases spawned with
    | error reason =>
      dsimp only [Except.map]
      rw [map_pure]
    | ok isolate => exact Channel.load_withDefaults isolate calls code

/-! ## Loading -/

/-- An isolate without effect that loads the code of a plugin. -/
theorem loadsIdle_of_spawn {s : Session m} {factory : IsolateFactory m} {code : String}
    (hfactory : s.isolates = some factory) (hsource : checkSource code = .ok ())
    (hspawn : Traceless (fun spawned => ∃ i, spawned = .ok i ∧ i.Idle
      ∧ Traceless (fun names => ∃ hooks, names = .ok hooks) (i.load code pluginBindings))
      factory.spawn) : s.LoadsIdle (some code) := by
  intro source hcode
  obtain rfl := Option.some.inj hcode
  unfold loadPlugin
  rw [hfactory]
  dsimp only
  refine hspawn.bind fun spawned hspawned => ?_
  obtain ⟨i, rfl, hidle, hload⟩ := hspawned
  dsimp only
  unfold Channel.load
  rw [hsource]
  dsimp only
  refine hload.bind fun names hnames => ?_
  obtain ⟨hooks, rfl⟩ := hnames
  exact traceless_pure ⟨_, rfl, hidle⟩

theorem load_withDefaults (s : Session m) (calls : HookRequest → Bool) (code : Option String) :
    Coupled (Matching fun p p' => p' = p.map (·.withDefaults calls)) (s.load code)
      ((s.withDefaults calls).load code) := by
  cases code with
  | none => exact coupled_pure (.ok rfl)
  | some code =>
    dsimp only [load]
    rw [loadPlugin_withDefaults, Functor.map_map, ← bind_pure_comp, ← bind_pure_comp]
    refine (coupled_refl (s.loadPlugin code)).bind fun loaded loaded' hsame => coupled_pure ?_
    subst hsame
    cases loaded with
    | error e => exact .error e
    | ok channel => exact .ok rfl

/-- Where nothing is loaded instead no difference is seen. -/
theorem load_idle {s : Session m} {code : Option String} (hidle : s.LoadsIdle code) :
    Coupled (Matching fun p p' => (∀ c ∈ p, c.isolate.Idle) ∧ p' = none) (s.load code)
      (s.load none) := by
  cases code with
  | none => exact coupled_pure (.ok ⟨nofun, rfl⟩)
  | some code =>
    dsimp only [load]
    rw [← bind_pure_comp]
    refine (hidle code rfl).coupled fun loaded hloaded => ?_
    obtain ⟨channel, rfl, hchannel⟩ := hloaded
    refine coupled_pure (.ok ⟨?_, rfl⟩)
    intro c hc
    obtain rfl := Option.some.inj hc
    exact hchannel

/-- Caches in which nothing is kept but the plugin for some code, if it has loaded. -/
def keeping (code : String) (scale : Float32)
    (loaded : Except SessionError (Option (Channel m))) : Caches m :=
  { plugins := (loaded.toOption.join.map fun channel =>
      (∅ : Std.ExtTreeMap CacheKey (Channel m)).insert
        (CacheKey.of scale (some (sourceFingerprint code))) channel).getD ∅ }

theorem plugin_fresh (s : Session m) (code : String) (scale : Float32) :
    (s.plugin code scale).run.run {} = do
      let loaded ← s.loadPlugin code
      return (loaded, keeping code scale (loaded.map some)) := by
  rw [plugin_of_unkept s code scale (by simp)]
  refine bind_congr fun loaded => ?_
  cases loaded <;> rfl

/-- On a fresh session the plugin of a request is loaded, and nothing is new in the caches but that
it is kept. -/
theorem requestedPlugin_fresh (s : Session m) (request : CompileRequest) :
    ∃ kept : Except SessionError (Option (Channel m)) → Caches m,
      (∀ loaded, (kept loaded).tokenIndexes = ∅ ∧ ({} : Caches m).SamePictures (kept loaded))
        ∧ (s.requestedPlugin request).run.run {} = do
          let loaded ← s.load (usedSource? request.pluginCode)
          return (loaded, kept loaded) := by
  rw [requestedPlugin_eq]
  cases usedSource? request.pluginCode with
  | none =>
    refine ⟨fun _ => {}, fun _ => ⟨rfl, .refl _⟩, ?_⟩
    dsimp only [load]
    rw [pure_bind]
    rfl
  | some code =>
    refine ⟨keeping code request.options.scale, fun _ => ⟨rfl, rfl, rfl, rfl⟩, ?_⟩
    dsimp only [load]
    rw [bind_map_left, ExceptT.run_map, StateT.run_map, plugin_fresh, map_bind]
    refine bind_congr fun loaded => ?_
    rw [map_pure]

/-! ## Compilations -/

variable {T : Option (Channel m) → Option (Channel m) → Prop}

/-- Requests that differ in their plugins at most, on fresh sessions that differ in their isolates
at most. -/
theorem compile_coupled (hT : Interchangeable T) (s : Session m)
    (isolates isolates' : Option (IsolateFactory m)) (g : SceneGraph) (request : CompileRequest)
    (pluginCode pluginCode' : Option String)
    (hload : Coupled (Matching T) ((s.withIsolates isolates).load (usedSource? pluginCode))
      ((s.withIsolates isolates').load (usedSource? pluginCode'))) :
    Coupled (fun o o' => Matching (· = ·) o.1 o'.1)
      (((s.withIsolates isolates).compile g { request with pluginCode }).run.run {})
      (((s.withIsolates isolates').compile g
        { request with pluginCode := pluginCode' }).run.run {}) := by
  obtain ⟨kept, hkept, hrun⟩ :=
    (s.withIsolates isolates).requestedPlugin_fresh { request with pluginCode }
  obtain ⟨kept', hkept', hrun'⟩ :=
    (s.withIsolates isolates').requestedPlugin_fresh { request with pluginCode := pluginCode' }
  have hplugin : Coupled (fun o o' => Matching T o.1 o'.1 ∧ BothUnindexed o.2 o'.2)
      (((s.withIsolates isolates).requestedPlugin { request with pluginCode }).run.run {})
      (((s.withIsolates isolates').requestedPlugin
        { request with pluginCode := pluginCode' }).run.run {}) := by
    rw [hrun, hrun']
    refine hload.bind fun loaded loaded' hmatching => coupled_pure ⟨hmatching, ?_⟩
    exact ⟨(hkept loaded).1, (hkept' loaded').1, (hkept loaded).2.symm.trans (hkept' loaded').2⟩
  unfold compile
  dsimp only
  -- Whether there is anything to compile does not depend on the plugin.
  split
  · have hthrow : Coupled (fun o o' => Matching (fun _ _ => False) o.1 o'.1 ∧ True)
        ((throw .noVisibleRoot : SessionM m PUnit).run.run {})
        ((throw .noVisibleRoot : SessionM m PUnit).run.run {}) :=
      coupled_pure (m := m) ⟨.error _, trivial⟩
    exact Coupled.run_bind (P := fun _ _ => True) hthrow fun _ _ h => h.elim
  · refine Coupled.run_bind (P := BothUnindexed) hplugin fun p p' hp c d hcd => ?_
    exact coupled_run_steps (compileTree_coupled hT hp s g _ request.options hcd)

/-! ## Results -/

/-- On a fresh session a compilation has one result with and without defaults for those calls of a
set that have no usable value; and where the plugin loads and there are no usable values but the
defaults, it has the result that it has without a plugin. -/
theorem compile_defaults (s : Session m) (g : SceneGraph) (request : CompileRequest) :
    (∀ calls : HookRequest → Bool,
        (·.1) <$> ((s.withDefaults calls).compile g request).run.run {}
          = (·.1) <$> (s.compile g request).run.run {})
      ∧ (s.LoadsIdle (usedSource? request.pluginCode) →
        (·.1) <$> (s.compile g request).run.run {}
          = (·.1) <$> (s.compile g { request with pluginCode := none }).run.run {}) := by
  constructor
  · intro calls
    have hcompile := compile_coupled (interchangeable_withDefaults calls) s s.isolates _ g
      request request.pluginCode request.pluginCode (s.load_withDefaults calls _)
    exact (hcompile.map_eq fun o o' ho => ho.eq).symm
  · intro hidle
    have hcompile := compile_coupled interchangeable_idle s s.isolates s.isolates g request
      request.pluginCode none (load_idle hidle)
    exact hcompile.map_eq fun o o' ho => ho.eq

/-! ### On the scene whose names collide -/

/-- Code for the second frame, with a plugin. -/
def frameRequest : CompileRequest where
  roots := [⟨"1:2"⟩]
  pluginCode := some "renamed"

/-- The outcome of that compilation where plugins run in an isolate. -/
def frameWith (i : Isolate Id) : Except SessionError CompileResult :=
  ((((showing collidingScene).withIsolates (some { spawn := .ok i })).compile collidingScene
    frameRequest).run.run {}).1

/-- A plugin that fails in all calls, and one that gives back what it is told, leave what there is
without a plugin; one that chooses a name does not. -/
theorem frameWith_idle :
    frameWith (.failing "no") = (((showing collidingScene).compile collidingScene
        { frameRequest with pluginCode := none }).run.run {}).1
      ∧ frameWith .echoing = (((showing collidingScene).compile collidingScene
        { frameRequest with pluginCode := none }).run.run {}).1
      ∧ tokenIn (frameWith .echoing) "space-small" = some "8px"
      ∧ tokenIn (frameWith (namingIsolate "chosen")) "space-small" = none := by
  have hidle : ∀ i : Isolate Id, i.Idle → (∃ names, i.load "renamed" pluginBindings = .ok names) →
      ((showing collidingScene).withIsolates (some { spawn := .ok i })).LoadsIdle
        (usedSource? frameRequest.pluginCode) := by
    intro i hi hload
    obtain ⟨names, hnames⟩ := hload
    have hused : usedSource? frameRequest.pluginCode = some "renamed" := by decide +kernel
    rw [hused]
    refine loadsIdle_of_spawn rfl (by decide +kernel) ?_
    refine traceless_pure (m := Id) ⟨i, rfl, hi, ?_⟩
    rw [hnames]
    exact traceless_pure (m := Id) ⟨names, rfl⟩
  refine ⟨?_, ?_, by decide +kernel, by decide +kernel⟩
  · exact (compile_defaults _ collidingScene frameRequest).2
      (hidle _ (Isolate.idle_failing "no") ⟨_, rfl⟩)
  · exact (compile_defaults _ collidingScene frameRequest).2
      (hidle _ Isolate.idle_echoing ⟨_, rfl⟩)

end Session

end SceneCompiler
