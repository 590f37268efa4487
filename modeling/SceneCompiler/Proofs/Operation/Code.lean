import Mathlib
import SceneCompiler.Operation.Code
import SceneCompiler.Proofs.Compile.Index
/-!
# Calls for code, and histories of them

A call finds its selection in the scene that the host shows, gets its plugin, and compiles. Whatever
fails does so before the token indexes are touched.

* `getCode_ensures`: what one call does to the token indexes.
* `replay_keeps`: what every call keeps true is true after a history, by induction on its calls.
-/

namespace SceneCompiler

variable {m : Type → Type} [Monad m]

/-! ## Requests -/

/-- The plugin code of a request, if it asks for a plugin. Blank code does not. -/
def usedSource? (pluginCode : Option String) : Option String :=
  pluginCode.filter fun code => !code.toList.all isWhite

theorem usedSource?_of_blank {code : String} (h : code.toList.all isWhite) :
    usedSource? (some code) = none := by
  unfold usedSource?
  rw [Option.filter_some, h]
  rfl

theorem usedSource?_of_not_blank {code : String} (h : ¬ code.toList.all isWhite) :
    usedSource? (some code) = some code := by
  unfold usedSource?
  rw [Option.filter_some, Bool.eq_false_of_not_eq_true h]
  rfl

/-- The key under which a request finds its token index. -/
def CodeRequest.tokenKey (q : CodeRequest) : CacheKey :=
  CacheKey.of q.options.scale ((usedSource? q.pluginCode).map sourceFingerprint)

/-- The tree that a request compiles. -/
def CodeRequest.treeIn (q : CodeRequest) (g : SceneGraph) (roots : List NodeId) : VisibleTree :=
  g.visibleTree roots q.options.depthPolicy

/-- The caches once some code was loaded for a key: the plugin is kept if it has loaded. -/
def Caches.afterLoad (c : Caches m) (key : CacheKey) :
    Except SessionError (Channel m) → Caches m
  | .ok channel => { c with plugins := c.plugins.insert key channel }
  | .error _ => c

namespace Session

variable [LawfulMonad m] {s : Session m} {c : Caches m}

/-! ## Plugins -/

/-- A channel that was loaded has the fingerprint of its code. -/
theorem loadPlugin_fingerprint (code : String) :
    SatisfiesM (fun outcome => ∀ channel, outcome = .ok channel →
      channel.fingerprint = sourceFingerprint code) (s.loadPlugin code) := by
  unfold loadPlugin
  split
  · exact SatisfiesM.pure nofun
  · refine SatisfiesM.bind (.trivial) fun spawned _ => ?_
    cases spawned with
    | error reason => exact SatisfiesM.pure nofun
    | ok isolate =>
      show SatisfiesM _ (Channel.load isolate code)
      unfold Channel.load
      split
      · exact SatisfiesM.pure nofun
      · refine SatisfiesM.bind (.trivial) fun loaded _ => ?_
        cases loaded with
        | error reason => exact SatisfiesM.pure nofun
        | ok names =>
          refine SatisfiesM.pure ?_
          rintro _ ⟨⟩
          rfl

/-- A plugin that is not kept is loaded, and kept if it loads. -/
theorem plugin_of_unkept (s : Session m) (code : String) (scale : Float32)
    (h : c.plugins[CacheKey.of scale (some (sourceFingerprint code))]? = none) :
    (s.plugin code scale).run.run c = do
      let loaded ← s.loadPlugin code
      return (loaded, c.afterLoad (CacheKey.of scale (some (sourceFingerprint code))) loaded) := by
  unfold plugin
  dsimp only
  rw [ExceptT.run_bind, show (get : SessionM m (Caches m)) = ExceptT.lift get from rfl,
    ExceptT.run_lift, bind_map_left, StateT.run_bind, StateT.run_get, pure_bind]
  dsimp only
  rw [h]
  dsimp only
  rw [ExceptT.run_bind, ExceptT.run_mk, StateT.run_bind,
    show (liftM (s.loadPlugin code) : CacheM m _) = monadLift (s.loadPlugin code) from rfl,
    StateT.run_monadLift, bind_assoc]
  refine bind_congr fun loaded => ?_
  rw [pure_bind]
  cases loaded with
  | error e => rfl
  | ok channel =>
    have hmodify : ∀ (f : Caches m → Caches m) (c : Caches m),
        (modify f : SessionM m PUnit).run.run c = pure (.ok ⟨⟩, f c) := by
      intro f c
      rw [show (modify f : SessionM m PUnit) = ExceptT.lift (modify f) from rfl, ExceptT.run_lift,
        StateT.run_map, StateT.run_modify, map_pure]
    dsimp only
    rw [ExceptT.run_bind, StateT.run_bind, hmodify, pure_bind]
    rfl

/-- The plugin for some code is a kept one, or else it is loaded, and kept if it loads. -/
theorem plugin_cases {loaded : Except SessionError (Channel m) → Prop} (code : String)
    (scale : Float32) (hload : SatisfiesM loaded (s.loadPlugin code)) :
    Ensures (s.plugin code scale).run c fun outcome d =>
      (∃ channel, c.plugins[CacheKey.of scale (some (sourceFingerprint code))]? = some channel
          ∧ outcome = .ok channel ∧ d = c)
        ∨ c.plugins[CacheKey.of scale (some (sourceFingerprint code))]? = none
          ∧ loaded outcome
          ∧ d = c.afterLoad (CacheKey.of scale (some (sourceFingerprint code))) outcome := by
  cases hkept : c.plugins[CacheKey.of scale (some (sourceFingerprint code))]? with
  | some channel =>
    unfold plugin
    refine ensures_run_get_bind ?_
    rw [hkept]
    exact ensures_run_pure (Or.inl ⟨channel, rfl, rfl, rfl⟩)
  | none =>
    unfold Ensures
    rw [plugin_of_unkept s code scale hkept]
    refine SatisfiesM.bind hload fun outcome hloaded => SatisfiesM.pure (Or.inr ?_)
    exact ⟨rfl, hloaded, rfl⟩

/-- The plugin for some code has its fingerprint, loaded before or not; the token indexes stay. -/
theorem plugin_ensures (code : String) (scale : Float32) (hc : c.Sound) :
    Ensures (s.plugin code scale).run c fun outcome d => d.Sound
      ∧ d.tokenIndexes = c.tokenIndexes ∧ d.lastTokenKey = c.lastTokenKey
      ∧ ∀ channel, outcome = .ok channel → channel.fingerprint = sourceFingerprint code := by
  refine (plugin_cases code scale (loadPlugin_fingerprint code)).imp ?_
  rintro outcome d (⟨channel, hkept, rfl, rfl⟩ | ⟨-, hprint, rfl⟩)
  · refine ⟨hc, rfl, rfl, ?_⟩
    rintro _ ⟨⟩
    exact hc.plugins _ _ hkept
  · cases outcome with
    | error e => exact ⟨hc, rfl, rfl, nofun⟩
    | ok channel =>
      have hsound := hc.insertPlugin channel scale
      rw [hprint channel rfl] at hsound
      exact ⟨hsound, rfl, rfl, hprint⟩

omit [LawfulMonad m] in
/-- A request asks for no plugin, or for the plugin for the code that it uses. -/
theorem requestedPlugin_eq (s : Session m) (request : CompileRequest) :
    s.requestedPlugin request = match usedSource? request.pluginCode with
      | none => pure none
      | some code => some <$> s.plugin code request.options.scale := by
  unfold requestedPlugin
  cases hcode : request.pluginCode with
  | none => rfl
  | some code =>
    dsimp only
    split
    · next hblank => rw [usedSource?_of_blank hblank]
    · next hused => rw [usedSource?_of_not_blank hused]

/-- The plugin that a request asks for has the fingerprint that its token index is kept under. -/
theorem requestedPlugin_ensures (request : CompileRequest) (hc : c.Sound) :
    Ensures (s.requestedPlugin request).run c fun outcome d => d.Sound
      ∧ d.tokenIndexes = c.tokenIndexes ∧ d.lastTokenKey = c.lastTokenKey
      ∧ ∀ plugin, outcome = .ok plugin → plugin.map (·.fingerprint)
        = (usedSource? request.pluginCode).map sourceFingerprint := by
  rw [requestedPlugin_eq]
  cases usedSource? request.pluginCode with
  | none =>
    refine ensures_run_pure ⟨hc, rfl, rfl, ?_⟩
    rintro _ ⟨⟩
    rfl
  | some code =>
    dsimp only
    rw [← bind_pure_comp]
    refine (plugin_ensures code request.options.scale hc).run_bind ?_ ?_
    · rintro channel d ⟨hd, hindexes, hlast, hprint⟩
      refine ensures_run_pure ⟨hd, hindexes, hlast, ?_⟩
      rintro _ ⟨⟩
      exact congrArg some (hprint channel rfl)
    · rintro e d ⟨hd, hindexes, hlast, -⟩
      exact ⟨hd, hindexes, hlast, nofun⟩

/-- What a selector means in the scene that a host shows, or fails to show. -/
def selectionIn (shown : Except String SceneGraph) (selector : Option (List NodeId)) :
    Except SessionError (SceneGraph × List NodeId) :=
  match shown with
  | .ok g => (g.resolveSelection selector).map fun roots => (g, roots)
  | .error reason => .error (.sceneUnavailable reason)

omit [Monad m] [LawfulMonad m] in
theorem selectionIn_eq_ok {shown : Except String SceneGraph} {selector : Option (List NodeId)}
    {g : SceneGraph} {roots : List NodeId} :
    selectionIn shown selector = .ok (g, roots)
      ↔ shown = .ok g ∧ g.resolveSelection selector = .ok roots := by
  cases shown with
  | error reason => simp [selectionIn]
  | ok g' =>
    cases hroots : g'.resolveSelection selector with
    | error e =>
      simp only [selectionIn, hroots, Except.map, reduceCtorEq, Except.ok.injEq, false_iff]
      rintro ⟨rfl, h⟩
      rw [hroots] at h
      cases h
    | ok roots' =>
      simp only [selectionIn, hroots, Except.map, Except.ok.injEq, Prod.mk.injEq]
      constructor
      · rintro ⟨rfl, rfl⟩
        exact ⟨rfl, hroots⟩
      · rintro ⟨rfl, h⟩
        exact ⟨rfl, Except.ok.inj (hroots.symm.trans h)⟩

/-- The scene is the one that the host shows at the moment. -/
theorem currentScene_ensures {shown : Except String SceneGraph → Prop}
    (hscene : SatisfiesM shown s.scene) :
    Ensures s.currentScene.run c fun outcome d =>
      c = d ∧ ∃ o, shown o ∧ outcome = o.mapError .sceneUnavailable := by
  unfold currentScene
  refine Ensures.run_bind (r := fun outcome d => c = d ∧ ∃ o, shown o ∧ outcome = .ok o)
    (ensures_run_lift (SatisfiesM.imp hscene fun h => ⟨rfl, _, h, rfl⟩)) ?_ ?_
  · rintro o _ ⟨rfl, _, ho, ⟨⟩⟩
    cases o with
    | ok g => exact ensures_run_pure ⟨rfl, _, ho, rfl⟩
    | error reason => exact ensures_run_throw ⟨rfl, _, ho, rfl⟩
  · rintro e _ ⟨-, _, -, ⟨⟩⟩

/-- The selection is that of the scene which the host shows at the moment. -/
theorem currentSelection_ensures (selector : Option (List NodeId))
    {shown : Except String SceneGraph → Prop} (hscene : SatisfiesM shown s.scene) :
    Ensures (s.currentSelection selector).run c fun outcome d =>
      c = d ∧ ∃ o, shown o ∧ outcome = selectionIn o selector := by
  unfold currentSelection
  refine (currentScene_ensures hscene).run_bind ?_ ?_
  · rintro g _ ⟨rfl, o, ho, hg⟩
    cases o with
    | error reason => cases hg
    | ok g' =>
      cases hg
      refine Ensures.run_bind (r := fun outcome d => c = d ∧ outcome = g.resolveSelection selector)
        (ensures_run_ofExcept ⟨rfl, rfl⟩) ?_ ?_
      · rintro roots _ ⟨rfl, hroots⟩
        refine ensures_run_pure ⟨rfl, .ok g, ho, ?_⟩
        simp [selectionIn, ← hroots, Except.map]
      · rintro e _ ⟨rfl, hroots⟩
        refine ⟨rfl, .ok g, ho, ?_⟩
        simp [selectionIn, ← hroots, Except.map]
  · rintro e _ ⟨rfl, o, ho, he⟩
    cases o with
    | ok g => cases he
    | error reason =>
      cases he
      exact ⟨rfl, _, ho, rfl⟩

/-- What a compilation does to the token indexes. It fails only before it comes to them. -/
theorem compile_ensures (g : SceneGraph) (request : CompileRequest) (hc : c.Sound) :
    Ensures (s.compile g request).run c fun outcome d => d.Sound
      ∧ (∀ r, outcome = .ok r → ∃ x styles, c.Indexed d (CacheKey.of request.options.scale
          ((usedSource? request.pluginCode).map sourceFingerprint)) x
        ∧ r.tokens = tokenValues x g.variableTable styles)
      ∧ ∀ e, outcome = .error e → d.tokenIndexes = c.tokenIndexes := by
  unfold compile
  dsimp only
  split
  · exact ensures_run_throw_bind ⟨hc, nofun, fun _ _ => rfl⟩
  · refine (requestedPlugin_ensures request hc).run_bind ?_ ?_
    · rintro plugin d ⟨hd, hindexes, hlast, hprint⟩
      refine ensures_run_steps ?_
      refine (compileTree_ensures g _ plugin request.options hd).imp fun r e he => ?_
      obtain ⟨he, x, styles, hindexed, htokens⟩ := he
      refine ⟨he, ?_, nofun⟩
      rintro _ ⟨⟩
      rw [hprint plugin rfl] at hindexed
      exact ⟨x, styles, hindexed.of_eq hindexes hlast, htokens⟩
    · rintro e d ⟨hd, hindexes, -, -⟩
      exact ⟨hd, nofun, fun _ _ => hindexes⟩

/-- What a call of `getCode` does to the token indexes. A condition on the scene that the host
shows is handed on to the scene that the tokens were looked up in. -/
theorem getCode_ensures (q : CodeRequest) {shown : Except String SceneGraph → Prop}
    (hscene : SatisfiesM shown s.scene) (hc : c.Sound) :
    Ensures (s.getCode q).run c fun outcome d => d.Sound
      ∧ (∀ r, outcome = .ok r → ∃ g x styles, shown (.ok g) ∧ c.Indexed d q.tokenKey x
        ∧ r.tokens = tokenValues x g.variableTable styles)
      ∧ ∀ e, outcome = .error e → d.tokenIndexes = c.tokenIndexes := by
  unfold getCode
  refine (currentSelection_ensures q.selector hscene).run_bind ?_ ?_
  · rintro ⟨g, roots⟩ _ ⟨rfl, o, ho, hselection⟩
    obtain ⟨rfl, -⟩ := selectionIn_eq_ok.mp hselection.symm
    refine (compile_ensures g _ hc).imp ?_
    rintro outcome d ⟨hd, hresult, herror⟩
    refine ⟨hd, fun r hr => ?_, herror⟩
    obtain ⟨x, styles, hindexed, htokens⟩ := hresult r hr
    exact ⟨g, x, styles, ho, hindexed, htokens⟩
  · rintro e _ ⟨rfl, -⟩
    exact ⟨hc, nofun, fun _ _ => rfl⟩

/-- A call leaves the indexes under other keys alone. -/
theorem getCode_other_keys (q : CodeRequest) (hc : c.Sound) {key : CacheKey}
    (hkey : q.tokenKey ≠ key) :
    Ensures (s.getCode q).run c fun _ d =>
      d.Sound ∧ d.tokenIndexes[key]? = c.tokenIndexes[key]? := by
  have hscene : SatisfiesM (fun _ => True) s.scene := .trivial
  refine (getCode_ensures q hscene hc).imp ?_
  rintro outcome d ⟨hd, hresult, herror⟩
  refine ⟨hd, ?_⟩
  cases outcome with
  | error e => rw [herror e rfl]
  | ok r =>
    obtain ⟨g, x, styles, -, hindexed, -⟩ := hresult r rfl
    cases hindexed with
    | kept found indexes lastKey => rw [indexes]
    | stored candidates chosen extended indexes lastKey =>
      -- What was stored has the key of the request.
      have hne : ¬ compare q.tokenKey key = .eq := by rwa [Std.compare_eq_iff_eq]
      rw [indexes, Std.ExtTreeMap.getElem?_insert, if_neg hne]

/-! ## Histories -/

/-- Calls of `getCode` one after the other, each on a session of its own collaborators and each
whether or not those before it failed. -/
def replay (history : List (Session m × CodeRequest)) : CacheM m Unit :=
  history.forM fun (s, q) => discard (s.getCode q).run

/-- What every call of a history keeps true is true after the history. -/
theorem replay_keeps {I : Caches m → Prop} {history : List (Session m × CodeRequest)}
    (h : ∀ call ∈ history, ∀ c, I c → Ensures (call.1.getCode call.2).run c fun _ d => I d)
    (hc : I c) : Ensures (replay history) c fun _ d => I d := by
  induction history generalizing c with
  | nil => exact ensures_pure hc
  | cons call rest ih =>
    obtain ⟨s, q⟩ := call
    show Ensures (discard (s.getCode q).run >>= fun _ => replay rest) c _
    rw [show discard (s.getCode q).run = (fun _ => ⟨⟩) <$> (s.getCode q).run from rfl,
      bind_map_left]
    refine (h (s, q) List.mem_cons_self c hc).bind fun outcome d hd => ?_
    exact ih (fun call hcall => h call (List.mem_cons_of_mem _ hcall)) hd

/-- Whatever calls a session has seen, its token indexes have proper names and its plugins their own
fingerprints. -/
theorem replay_sound (history : List (Session m × CodeRequest)) (hc : c.Sound) :
    Ensures (replay history) c fun _ d => d.Sound := by
  have hscene : ∀ s : Session m, SatisfiesM (fun _ => True) s.scene := fun _ => .trivial
  refine replay_keeps (fun call _ c hc => ?_) hc
  exact (getCode_ensures call.2 (hscene call.1) hc).imp fun _ _ hd => hd.1

/-! ## A scene whose names collide

Two frames with a gap each, which may be bound to variables of different raw names with one
normalized form. -/

/-- A host that shows a scene and has nothing else. -/
def showing (g : SceneGraph) : Session Id where
  scene := .ok g
  styleSnapshot _ := .error "no declarations"
  exportSvg _ := .error "no pictures"
  exportPng _ _ := .error "no pictures"
  imageBytes _ := .ok none
  store _ _ _ := .error "no store"

end Session

/-- A variable with one literal. -/
def Variable.ofLiteral (id name literal : String) : Variable where
  id := ⟨id⟩
  name
  defaultMode := "light"
  valuesByMode := (∅ : Std.ExtTreeMap String VariableValue).insert "light" (.string literal)

/-- A frame whose gap refers to a token and that has some variables bound. -/
def SceneNode.withGap (id gap : String) (bound : List String) : SceneNode where
  id := ⟨id⟩
  type := .frame
  name := id
  boundVariables := bound.map VariableId.mk
  style := (∅ : TextMap).insert "gap" gap

/-- The first frame is bound to `Space/Small`, the second one to `space-small`. -/
def collidingScene : SceneGraph :=
  ((({} : SceneGraph).addRoot (.withGap "1:1" "var(--space-small)" ["v:a"])).addRoot
    (.withGap "1:2" "var(--space-small)" ["v:b"])).defineVariable
      (.ofLiteral "v:a" "Space/Small" "4px") |>.defineVariable
        (.ofLiteral "v:b" "space-small" "8px")

/-- Code for one node, at a scale. -/
def CodeRequest.ofNode (id : String) (scale : Float32) : CodeRequest where
  selector := some [⟨id⟩]
  options := { scale }

/-- A call of `getCode` after others in the same session, on the scene whose names collide. -/
def collidingRun (history : List CodeRequest) (q : CodeRequest) :
    Except SessionError CompileResult × Caches Id :=
  (Session.replay (history.map fun q => (Session.showing collidingScene, q)) >>= fun _ =>
    ((Session.showing collidingScene).getCode q).run).run {}

/-- The value of a token in a result. -/
def tokenIn (outcome : Except SessionError CompileResult) (name : String) : Option String :=
  match outcome with
  | .ok r => r.tokens[name]?
  | .error _ => none

theorem exists_of_tokenIn {outcome : Except SessionError CompileResult} {name value : String}
    (h : tokenIn outcome name = some value) :
    ∃ r, outcome = .ok r ∧ r.tokens[name]? = some value := by
  cases outcome with
  | error e => cases h
  | ok r => exact ⟨r, rfl, h⟩

end SceneCompiler
