import Mathlib
import SceneCompiler.Proofs.Compile.Settled
import SceneCompiler.Proofs.Operation.Code
/-!
# Calls on settled caches

Every call leaves the caches settled, whether or not it succeeds. Where one knows the answers of the
plugin that it asks for, it fails in the same way on all settled caches, or its result depends on
them only through one token index.

* `getCode_settled`: what a call keeps true.
* `getCode_result`: what the result of a call depends on.
-/

namespace SceneCompiler.Session

variable {s : Session Id} {c : Caches Id} {T : Option (Channel Id) → Prop}

/-! ## Plugins -/

/-- Whether the plugin for some code loads, if there is any code. -/
def loads (s : Session Id) : Option String → Except SessionError Unit
  | some code => (s.loadPlugin code).run.map fun _ => ()
  | none => .ok ()

/-- The plugin for some code can be relied on whenever it loads. -/
def LoadsTrusted (s : Session Id) (T : Option (Channel Id) → Prop) (code : Option String) : Prop :=
  ∀ source, code = some source →
    ∀ channel, (s.loadPlugin source).run = .ok channel → T (some channel)

/-- A plugin that can be relied on and has the fingerprint of some code has given answers, and the
code loads. -/
def Known (s : Session Id) (T : Option (Channel Id) → Prop) (code : Option String)
    (answer : HookKind → Json → Option Json) : Prop :=
  ∀ plugin, T plugin → plugin.map (·.fingerprint) = code.map sourceFingerprint →
    Gives plugin answer ∧ s.loads code = .ok ()

/-- The plugin that a request asks for can be relied on. It is a kept one, or else it is there just
when its code loads. -/
theorem requestedPlugin_settled (hT : Lasting T) (hc : c.Settled s T) (request : CompileRequest)
    (hload : s.LoadsTrusted T (usedSource? request.pluginCode)) :
    Ensures (s.requestedPlugin request).run c fun outcome d => d.Settled s T
      ∧ d.tokenIndexes = c.tokenIndexes ∧ (∀ plugin, outcome = .ok plugin → T plugin)
      ∧ (outcome.map (fun _ => ()) = s.loads (usedSource? request.pluginCode)
        ∨ ∃ plugin, outcome = .ok plugin) := by
  rw [requestedPlugin_eq]
  cases hused : usedSource? request.pluginCode with
  | none =>
    refine ensures_run_pure ⟨hc, rfl, ?_, Or.inl rfl⟩
    rintro _ ⟨⟩
    exact hT.none
  | some code =>
    dsimp only
    rw [← bind_pure_comp]
    have hloaded : SatisfiesM (fun o => o = (s.loadPlugin code).run) (s.loadPlugin code) :=
      SatisfiesM_Id_eq.mpr rfl
    refine (plugin_cases code request.options.scale hloaded).run_bind ?_ ?_
    · rintro channel d (⟨_, hkept, ⟨⟩, rfl⟩ | ⟨-, hloaded, rfl⟩)
      · refine ensures_run_pure ⟨hc, rfl, ?_, Or.inr ⟨_, rfl⟩⟩
        rintro _ ⟨⟩
        exact hc.trusted _ _ hkept
      · have hchannel : T (some channel) := hload code hused channel hloaded.symm
        have hprint := SatisfiesM_Id_eq.mp (loadPlugin_fingerprint (s := s) code) channel
          hloaded.symm
        have hinserted := insertPlugin_settled hc hchannel request.options.scale
        rw [hprint] at hinserted
        refine ensures_run_pure ⟨hinserted, rfl, ?_, Or.inr ⟨_, rfl⟩⟩
        rintro _ ⟨⟩
        exact hchannel
    · rintro e d (⟨_, -, ⟨⟩, -⟩ | ⟨-, hloaded, rfl⟩)
      exact ⟨hc, rfl, nofun, Or.inl (congrArg (Except.map fun _ => ()) hloaded)⟩

/-- The caches are settled after a compilation, whatever its plugin does. -/
theorem compile_settled (hstore : s.StoresByHash) (hT : Lasting T) (hc : c.Settled s T)
    (g : SceneGraph) (request : CompileRequest)
    (hload : s.LoadsTrusted T (usedSource? request.pluginCode)) :
    Ensures (s.compile g request).run c fun _ d => d.Settled s T := by
  unfold compile
  dsimp only
  split
  · exact ensures_run_throw_bind hc
  · refine (requestedPlugin_settled hT hc request hload).run_bind ?_ fun e d hd => hd.1
    rintro plugin d ⟨hd, -, hplugin, -⟩
    obtain ⟨final, build, -, htree⟩ := compileTree_settled hstore hT (fun _ _ => none) g
      (g.visibleTree request.roots request.options.depthPolicy) request.options
    exact ensures_run_steps ((htree plugin d _ (hplugin plugin rfl) hd rfl).imp fun _ _ he => he.1)

/-- The caches are settled after a call, whatever its plugin does. -/
theorem getCode_settled (hstore : s.StoresByHash) (hT : Lasting T) (hc : c.Settled s T)
    (q : CodeRequest) (hload : s.LoadsTrusted T (usedSource? q.pluginCode)) :
    Ensures (s.getCode q).run c fun _ d => d.Settled s T := by
  unfold getCode
  have hscene : SatisfiesM (fun _ => True) s.scene := .trivial
  refine (currentSelection_ensures q.selector hscene).run_bind ?_ ?_
  · rintro ⟨g, roots⟩ _ ⟨rfl, -⟩
    exact compile_settled hstore hT hc g _ hload
  · rintro e _ ⟨rfl, -⟩
    exact hc

/-! ## Results -/

/-- Where the plugin that a request asks for has given answers, the request fails in the same way on
all settled caches, or its result and the index that it leaves behind depend on the caches only
through the index that was kept under its key. -/
theorem compile_result (hstore : s.StoresByHash) (hT : Lasting T)
    {answer : HookKind → Json → Option Json} (g : SceneGraph) (request : CompileRequest)
    (key : CacheKey) (hkey : key = CacheKey.of request.options.scale
      ((usedSource? request.pluginCode).map sourceFingerprint))
    (hload : s.LoadsTrusted T (usedSource? request.pluginCode))
    (hanswer : s.Known T (usedSource? request.pluginCode) answer) :
    (∃ e, ∀ c : Caches Id, c.Settled s T →
        Ensures (s.compile g request).run c fun outcome _ => outcome = .error e)
      ∨ ∃ (final : StyleMap → StyleMap) (build : StyleMap → TextMap → CompileResult),
        (∀ styles tokens, (build styles tokens).tokens = tokens)
        ∧ ∀ c : Caches Id, c.Settled s T → Ensures (s.compile g request).run c fun outcome d =>
          let tree := g.visibleTree request.roots request.options.depthPolicy
          let x := workingIndex answer (g.tokenCandidates tree) request.options
            c.tokenIndexes[key]?
          let styles := StyleMap.rewriteTokens (s.collectStyles g tree) x.rewriteTable
          d.tokenIndexes[key]? = some x
            ∧ outcome = .ok (build styles (tokenValues x g.variableTable (final styles))) := by
  subst hkey
  -- A kept plugin does not load again, but it would; so all settled caches agree on failures.
  have hplugin : ∀ c : Caches Id, c.Settled s T →
      Ensures (s.requestedPlugin request).run c fun outcome d => d.Settled s T
        ∧ d.tokenIndexes = c.tokenIndexes
        ∧ outcome.map (fun _ => ()) = s.loads (usedSource? request.pluginCode)
        ∧ ∀ plugin, outcome = .ok plugin → T plugin ∧ Gives plugin answer
          ∧ plugin.map (·.fingerprint)
            = (usedSource? request.pluginCode).map sourceFingerprint := by
    intro c hc
    refine (ensures_and (requestedPlugin_settled hT hc request hload)
      (requestedPlugin_ensures request hc.sound)).imp ?_
    rintro outcome d ⟨⟨hd, hindexes, htrusted, hloads⟩, -, -, -, hprint⟩
    refine ⟨hd, hindexes, ?_, fun plugin hp => ⟨htrusted plugin hp,
      (hanswer plugin (htrusted plugin hp) (hprint plugin hp)).1, hprint plugin hp⟩⟩
    rcases hloads with hloads | ⟨plugin, rfl⟩
    · exact hloads
    · exact (hanswer plugin (htrusted plugin rfl) (hprint plugin rfl)).2.symm
  unfold compile
  dsimp only
  split
  · exact Or.inl ⟨.noVisibleRoot, fun c hc => ensures_run_throw_bind rfl⟩
  · cases hloads : s.loads (usedSource? request.pluginCode) with
    | error e =>
      refine Or.inl ⟨e, fun c hc => (hplugin c hc).run_bind ?_ ?_⟩
      · rintro plugin d ⟨-, -, hok, -⟩
        rw [hloads] at hok
        cases hok
      · rintro e' d ⟨-, -, herror, -⟩
        rw [hloads] at herror
        rw [Except.error.inj herror]
    | ok _ =>
      obtain ⟨final, build, htokens, htree⟩ := compileTree_settled hstore hT answer g
        (g.visibleTree request.roots request.options.depthPolicy) request.options
      refine Or.inr ⟨final, build, htokens, fun c hc => (hplugin c hc).run_bind ?_ ?_⟩
      · rintro plugin d ⟨hd, hindexes, -, hplugin⟩
        obtain ⟨htrusted, hgives, hprint⟩ := hplugin plugin rfl
        refine ensures_run_steps ((htree plugin d _ htrusted hd rfl).imp ?_)
        rintro r e ⟨-, hresult⟩
        obtain ⟨hfound, rfl⟩ := hresult hgives
        rw [hprint, hindexes] at hfound
        rw [hprint, hindexes]
        exact ⟨hfound, rfl⟩
      · rintro e d ⟨-, -, herror, -⟩
        rw [hloads] at herror
        cases herror

theorem getCode_of_selected {q : CodeRequest} {g : SceneGraph} {roots : List NodeId}
    {w : Except SessionError CompileResult → Caches Id → Prop}
    (h : selectionIn s.scene.run q.selector = .ok (g, roots))
    (hw : Ensures (s.compile g
      { roots, options := q.options, pluginCode := q.pluginCode }).run c w) :
    Ensures (s.getCode q).run c w := by
  have hscene : Answers s.scene s.scene.run := answers_id.mpr rfl
  refine (currentSelection_ensures q.selector hscene).run_bind ?_ ?_
  · rintro _ _ ⟨rfl, _, rfl, hok⟩
    rw [h] at hok
    cases hok
    exact hw
  · rintro e _ ⟨-, _, rfl, herror⟩
    rw [h] at herror
    cases herror

theorem getCode_of_not_selected {q : CodeRequest} {e : SessionError}
    (h : selectionIn s.scene.run q.selector = .error e) :
    Ensures (s.getCode q).run c fun outcome _ => outcome = .error e := by
  have hscene : Answers s.scene s.scene.run := answers_id.mpr rfl
  refine (currentSelection_ensures q.selector hscene).run_bind ?_ ?_
  · rintro _ _ ⟨-, _, rfl, hok⟩
    rw [h] at hok
    cases hok
  · rintro e' _ ⟨-, _, rfl, herror⟩
    rw [h] at herror
    rw [Except.error.inj herror]

/-- The same for operations: they fail in the same way on all settled caches, or depend on the
caches only through the index that was kept. -/
theorem getCode_result (hstore : s.StoresByHash) (hT : Lasting T)
    {answer : HookKind → Json → Option Json} (q : CodeRequest)
    (hload : s.LoadsTrusted T (usedSource? q.pluginCode))
    (hanswer : s.Known T (usedSource? q.pluginCode) answer) :
    (∃ e, ∀ c : Caches Id, c.Settled s T →
        Ensures (s.getCode q).run c fun outcome _ => outcome = .error e)
      ∨ ∃ (g : SceneGraph) (roots : List NodeId) (final : StyleMap → StyleMap)
          (build : StyleMap → TextMap → CompileResult),
        s.scene.run = .ok g ∧ g.resolveSelection q.selector = .ok roots
        ∧ (∀ styles tokens, (build styles tokens).tokens = tokens)
        ∧ ∀ c : Caches Id, c.Settled s T → Ensures (s.getCode q).run c fun outcome d =>
          let x := workingIndex answer (g.tokenCandidates (q.treeIn g roots)) q.options
            c.tokenIndexes[q.tokenKey]?
          let styles := StyleMap.rewriteTokens (s.collectStyles g (q.treeIn g roots)) x.rewriteTable
          d.tokenIndexes[q.tokenKey]? = some x
            ∧ outcome = .ok (build styles (tokenValues x g.variableTable (final styles))) := by
  cases hselected : selectionIn s.scene.run q.selector with
  | error e => exact Or.inl ⟨e, fun _ _ => getCode_of_not_selected hselected⟩
  | ok selected =>
    obtain ⟨g, roots⟩ := selected
    obtain ⟨hshown, hroots⟩ := selectionIn_eq_ok.mp hselected
    rcases compile_result hstore hT g { roots, options := q.options, pluginCode := q.pluginCode }
      q.tokenKey rfl hload hanswer with ⟨e, hfails⟩ | ⟨final, build, htokens, hresult⟩
    · exact Or.inl ⟨e, fun c hc => getCode_of_selected hselected (hfails c hc)⟩
    · exact Or.inr ⟨g, roots, final, build, hshown, hroots, htokens,
        fun c hc => getCode_of_selected hselected (hresult c hc)⟩

end SceneCompiler.Session
