import Mathlib
import SceneCompiler.Proofs.Operation.FailingCalls
/-!
# Failures leave no trace

A call for code can fail at four places: the host shows no scene, nothing is selected, no root is
visible, or the plugin does not load. All of them come before the first cache is written, and a
plugin is kept only once it has loaded. So a call that fails leaves the caches as they were, and
where the plugin was to blame the next call loads it again.

* `compile_outcome`, `getCode_outcome`: how calls fail, and what those that succeed have loaded.
* `failed_calls_leave_caches`: calls that fail, and operations that only read.
-/

namespace SceneCompiler

variable {m : Type → Type} [Monad m]

/-! ## Definitions -/

/-- Loading the plugin that some code asks for, which the caches do not keep, has come to a
failure. -/
def FailsToLoad (c : Caches m) (pluginCode : Option String) (scale : Float32)
    (loaded : Except SessionError (Channel m) → Prop) (e : SessionError) : Prop :=
  ∃ code, usedSource? pluginCode = some code
    ∧ c.plugins[CacheKey.of scale (some (sourceFingerprint code))]? = none ∧ loaded (.error e)

/-- The plugin that some code asks for, if it does, is kept in the caches or has loaded. -/
def HasPlugin (c : Caches m) (pluginCode : Option String) (scale : Float32)
    (loaded : Except SessionError (Channel m) → Prop) : Prop :=
  ∀ code, usedSource? pluginCode = some code →
    c.plugins[CacheKey.of scale (some (sourceFingerprint code))]? = none →
      ∃ channel, loaded (.ok channel)

/-- The ways in which a call for code fails, from what the host may show and what loading may come
to. -/
inductive CodeFails (shown : Except String SceneGraph → Prop)
    (loaded : Except SessionError (Channel m) → Prop) (q : CodeRequest) (c : Caches m) :
    SessionError → Prop where
  | scene {reason : String} (unavailable : shown (.error reason)) :
      CodeFails shown loaded q c (.sceneUnavailable reason)
  | selection {g : SceneGraph} (available : shown (.ok g))
      (nothing : g.resolveSelection q.selector = .error .nothingSelected) :
      CodeFails shown loaded q c .nothingSelected
  | root {g : SceneGraph} {roots : List NodeId} (available : shown (.ok g))
      (found : g.resolveSelection q.selector = .ok roots)
      (hidden : (q.treeIn g roots).rootIds = []) : CodeFails shown loaded q c .noVisibleRoot
  | plugin {e : SessionError}
      (failed : FailsToLoad c q.pluginCode q.options.scale loaded e) :
      CodeFails shown loaded q c e

/-- The plugin for some code is not kept, and what needs it loads the code: it fails with what
loading fails with, and succeeds only if loading does. -/
structure LoadsAgain (c : Caches m) (key : CacheKey) (code : String) : Prop where
  unkept : c.plugins[key]? = none
  plugin : ∀ (s : Session m) (scale : Float32),
    CacheKey.of scale (some (sourceFingerprint code)) = key →
      (s.plugin code scale).run.run c = do
        let loaded ← s.loadPlugin code
        return (loaded, c.afterLoad key loaded)
  getCode : ∀ (s : Session m) (q : CodeRequest) (loaded : Except SessionError (Channel m) → Prop),
    usedSource? q.pluginCode = some code → q.tokenKey = key →
      SatisfiesM loaded (s.loadPlugin code) → Ensures (s.getCode q).run c fun outcome _ =>
        (∀ r, outcome = .ok r → ∃ channel, loaded (.ok channel))
          ∧ ∀ e, outcome = .error e → e.kind = .pluginLoad → loaded (.error e)

theorem CodeRequest.tokenKey_of_used {q : CodeRequest} {code : String}
    (h : usedSource? q.pluginCode = some code) :
    q.tokenKey = CacheKey.of q.options.scale (some (sourceFingerprint code)) := by
  unfold CodeRequest.tokenKey
  rw [h]
  rfl

omit [Monad m] in
/-- All other failures are failures of the selection. -/
theorem CodeFails.failsToLoad {shown : Except String SceneGraph → Prop}
    {loaded : Except SessionError (Channel m) → Prop} {q : CodeRequest} {c : Caches m}
    {e : SessionError} (h : CodeFails shown loaded q c e) (hkind : e.kind = .pluginLoad) :
    FailsToLoad c q.pluginCode q.options.scale loaded e := by
  cases h with
  | scene => cases hkind
  | selection => cases hkind
  | root => cases hkind
  | plugin failed => exact failed

namespace Session

variable [LawfulMonad m] {s : Session m} {c : Caches m}
  {loaded : Except SessionError (Channel m) → Prop}

/-! ## Loading -/

/-- Whatever keeps a plugin from loading is a failure of that kind. -/
theorem loadPlugin_kind (code : String) :
    SatisfiesM (fun outcome => ∀ e, outcome = .error e → e.kind = .pluginLoad)
      (s.loadPlugin code) := by
  have hfailed : ∀ e : SessionError, e.kind = .pluginLoad →
      ∀ e', (Except.error e : Except SessionError (Channel m)) = .error e' →
        e'.kind = .pluginLoad := by
    rintro e he _ ⟨⟩
    exact he
  unfold loadPlugin
  split
  · exact SatisfiesM.pure (hfailed _ rfl)
  · refine SatisfiesM.bind (.trivial) fun spawned _ => ?_
    cases spawned with
    | error reason => exact SatisfiesM.pure (hfailed _ rfl)
    | ok isolate =>
      show SatisfiesM _ (Channel.load isolate code)
      unfold Channel.load
      split
      · exact SatisfiesM.pure (hfailed _ rfl)
      · refine SatisfiesM.bind (.trivial) fun answer _ => ?_
        cases answer with
        | error reason => exact SatisfiesM.pure (hfailed _ rfl)
        | ok names => exact SatisfiesM.pure nofun

/-- A plugin that is asked for is kept, or loads, or the caches stay as they are. -/
theorem requestedPlugin_outcome (request : CompileRequest)
    (hload : ∀ code, usedSource? request.pluginCode = some code →
      SatisfiesM loaded (s.loadPlugin code)) :
    Ensures (s.requestedPlugin request).run c fun outcome d =>
      (∀ e, outcome = .error e →
        d = c ∧ FailsToLoad c request.pluginCode request.options.scale loaded e)
      ∧ ∀ plugin, outcome = .ok plugin →
        HasPlugin c request.pluginCode request.options.scale loaded := by
  rw [requestedPlugin_eq]
  cases hused : usedSource? request.pluginCode with
  | none =>
    refine ensures_run_pure ⟨nofun, fun _ _ code hcode => ?_⟩
    rw [hused] at hcode
    cases hcode
  | some code =>
    dsimp only
    rw [← bind_pure_comp]
    refine (plugin_cases code request.options.scale (hload code hused)).run_bind ?_ ?_
    · intro channel d hplugin
      refine ensures_run_pure ⟨nofun, fun _ _ code' hcode' hunkept => ?_⟩
      obtain rfl := Option.some.inj (hused.symm.trans hcode')
      rcases hplugin with ⟨kept, hkept, -⟩ | ⟨-, hloaded, -⟩
      · rw [hunkept] at hkept
        cases hkept
      · exact ⟨channel, hloaded⟩
    · rintro e d (⟨_, -, ⟨⟩, -⟩ | ⟨hunkept, hloaded, rfl⟩)
      refine ⟨?_, nofun⟩
      rintro _ ⟨⟩
      exact ⟨rfl, code, hused, hunkept, hloaded⟩

/-! ## Compilations and calls -/

/-- A compilation fails before it writes to the caches, without a visible root or a plugin. -/
theorem compile_outcome (g : SceneGraph) (request : CompileRequest)
    (hload : ∀ code, usedSource? request.pluginCode = some code →
      SatisfiesM loaded (s.loadPlugin code)) :
    Ensures (s.compile g request).run c fun outcome d =>
      (∀ e, outcome = .error e → d = c ∧
        (e = .noVisibleRoot
            ∧ (g.visibleTree request.roots request.options.depthPolicy).rootIds = []
          ∨ FailsToLoad c request.pluginCode request.options.scale loaded e))
      ∧ ∀ r, outcome = .ok r → HasPlugin c request.pluginCode request.options.scale loaded := by
  unfold compile
  dsimp only
  split
  · next hempty =>
    refine ensures_run_throw_bind ⟨?_, nofun⟩
    rintro _ ⟨⟩
    exact ⟨rfl, Or.inl ⟨rfl, List.isEmpty_iff.mp hempty⟩⟩
  · refine (requestedPlugin_outcome request hload).run_bind ?_ ?_
    · -- With a plugin, or without the need of one, a compilation does not fail.
      rintro plugin d ⟨-, hplugin⟩
      refine ensures_run_steps ((ensures_trivial _).imp fun _ _ _ => ⟨nofun, fun _ _ => ?_⟩)
      exact hplugin plugin rfl
    · rintro e d ⟨hfails, -⟩
      refine ⟨?_, nofun⟩
      rintro _ ⟨⟩
      obtain ⟨rfl, hfailed⟩ := hfails e rfl
      exact ⟨rfl, Or.inr hfailed⟩

/-- A call fails in one of the four ways, and leaves the caches as they were then. -/
theorem getCode_outcome (q : CodeRequest) {shown : Except String SceneGraph → Prop}
    (hscene : SatisfiesM shown s.scene)
    (hload : ∀ code, usedSource? q.pluginCode = some code →
      SatisfiesM loaded (s.loadPlugin code)) :
    Ensures (s.getCode q).run c fun outcome d =>
      (∀ e, outcome = .error e → d = c ∧ CodeFails shown loaded q c e)
      ∧ ∀ r, outcome = .ok r → HasPlugin c q.pluginCode q.options.scale loaded := by
  unfold getCode
  refine (currentSelection_ensures q.selector hscene).run_bind ?_ ?_
  · rintro ⟨g, roots⟩ _ ⟨rfl, o, ho, hselection⟩
    obtain ⟨rfl, hroots⟩ := selectionIn_eq_ok.mp hselection.symm
    refine (compile_outcome g _ hload).imp ?_
    rintro outcome d ⟨hfails, hplugin⟩
    refine ⟨fun e he => ?_, hplugin⟩
    obtain ⟨rfl, ⟨rfl, hhidden⟩ | hfailed⟩ := hfails e he
    · exact ⟨rfl, .root ho hroots hhidden⟩
    · exact ⟨rfl, .plugin hfailed⟩
  · rintro e _ ⟨rfl, o, ho, hselection⟩
    refine ⟨?_, nofun⟩
    rintro _ ⟨⟩
    refine ⟨rfl, ?_⟩
    cases o with
    | error reason =>
      obtain rfl := Except.error.inj hselection
      exact .scene ho
    | ok g =>
      cases hfound : g.resolveSelection q.selector with
      | ok roots => simp [selectionIn, hfound, Except.map] at hselection
      | error e' =>
        obtain rfl : e = e' := by simpa [selectionIn, hfound, Except.map] using hselection
        obtain rfl := (SceneGraph.resolveSelection_eq_error.mp hfound).1
        exact .selection ho hfound

/-- What is not kept is loaded again. -/
theorem loadsAgain_of_unkept {key : CacheKey} {code : String} (h : c.plugins[key]? = none) :
    LoadsAgain c key code where
  unkept := h
  plugin := by
    rintro s scale rfl
    exact plugin_of_unkept s code scale h
  getCode := by
    rintro s q loaded hused rfl hload
    have hscene : SatisfiesM (fun _ => True) s.scene := .trivial
    have hload' : ∀ code', usedSource? q.pluginCode = some code' →
        SatisfiesM loaded (s.loadPlugin code') := by
      intro code' hcode'
      obtain rfl := Option.some.inj (hused.symm.trans hcode')
      exact hload
    refine (getCode_outcome q hscene hload').imp ?_
    rintro outcome d ⟨hfails, hplugin⟩
    rw [CodeRequest.tokenKey_of_used hused] at h
    refine ⟨fun r hr => hplugin r hr code hused h, fun e he hkind => ?_⟩
    obtain ⟨_, -, -, hfailed⟩ := (hfails e he).2.failsToLoad hkind
    exact hfailed

/-! ## Results -/

/-- A call for code that fails leaves the caches as they were. If that was because its plugin did
not load, the plugin is not kept and is loaded again by the next call. The operations that answer
about tokens and outlines never change the caches. -/
theorem failed_calls_leave_caches (s : Session m) (c : Caches m) :
    (∀ q, Ensures (s.getCode q).run c fun outcome d => ∀ e, outcome = .error e →
      d = c ∧ (e.kind = .pluginLoad → ∃ code, usedSource? q.pluginCode = some code
        ∧ LoadsAgain d q.tokenKey code))
    ∧ (∀ names allModes, Ensures (s.getTokenDefs names allModes).run c fun _ d => d = c)
    ∧ ∀ selector depth, Ensures (s.getStructure selector depth).run c fun _ d => d = c := by
  have hscene : SatisfiesM (fun _ => True) s.scene := .trivial
  have hload : ∀ code, SatisfiesM (fun _ => True) (s.loadPlugin code) := fun _ => .trivial
  refine ⟨fun q => ?_, fun names allModes => ?_, fun selector depth => ?_⟩
  · refine (getCode_outcome q hscene fun code _ => hload code).imp ?_
    rintro outcome d ⟨hfails, -⟩ e he
    obtain ⟨rfl, hfails⟩ := hfails e he
    refine ⟨rfl, fun hkind => ?_⟩
    obtain ⟨code, hused, hunkept, -⟩ := hfails.failsToLoad hkind
    rw [← CodeRequest.tokenKey_of_used hused] at hunkept
    exact ⟨code, hused, loadsAgain_of_unkept hunkept⟩
  · unfold getTokenDefs
    refine (currentScene_ensures hscene).run_bind ?_ ?_
    · rintro g _ ⟨rfl, -⟩
      exact ensures_run_get_bind (ensures_run_pure rfl)
    · rintro e _ ⟨rfl, -⟩
      rfl
  · unfold getStructure
    refine (currentSelection_ensures selector hscene).run_bind ?_ ?_
    · rintro ⟨g, roots⟩ _ ⟨rfl, -⟩
      exact ensures_run_pure rfl
    · rintro e _ ⟨rfl, -⟩
      rfl

/-! ### A place for plugins that is full at first -/

/-- Why an operation failed, if it did. -/
def failureOf {α : Type} : Except SessionError α → Option SessionError
  | .ok _ => none
  | .error e => some e

theorem eq_error_of_failureOf {α : Type} {outcome : Except SessionError α} {e : SessionError}
    (h : failureOf outcome = some e) : outcome = .error e := by
  cases outcome with
  | ok a => cases h
  | error e' => rw [Option.some.inj h]

/-- A host that shows the scene whose names collide, where an isolate starts or not. -/
def startingWith (spawned : Except String (Isolate Id)) : Session Id :=
  (showing collidingScene).withIsolates (some { spawn := spawned })

/-- Code for the second frame, with a plugin. -/
def pluginCall : CodeRequest where
  selector := some [⟨"1:2"⟩]
  pluginCode := some "renamed"

/-- An isolate does not start, and the call leaves fresh caches as they are. The next call starts
one, and succeeds. -/
theorem failed_calls_leave_fresh_caches :
    ((startingWith (.error "full")).getCode pluginCall).run.run {}
        = (.error (.runnerFailed "full"), {})
      ∧ (∃ code, usedSource? pluginCall.pluginCode = some code
        ∧ LoadsAgain (m := Id) {} pluginCall.tokenKey code)
      ∧ tokenIn (((startingWith (.ok .echoing)).getCode pluginCall).run.run {}).1 "space-small"
        = some "8px" := by
  have hfailure : failureOf (((startingWith (.error "full")).getCode pluginCall).run.run {}).1
      = some (.runnerFailed "full") := by decide +kernel
  have hcaches := ensures_id.mp
    ((failed_calls_leave_caches (m := Id) (startingWith (.error "full")) {}).1 pluginCall)
  have he := eq_error_of_failureOf hfailure
  obtain ⟨hsame, hagain⟩ := hcaches _ he
  rw [hsame] at hagain
  exact ⟨Prod.ext he hsame, hagain rfl, by decide +kernel⟩

end Session

end SceneCompiler
