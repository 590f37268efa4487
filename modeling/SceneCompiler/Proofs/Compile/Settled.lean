import Mathlib
import SceneCompiler.Proofs.Compile.Index
import SceneCompiler.Proofs.Plugin.Replies
import SceneCompiler.Proofs.Session.Determined
/-!
# Compilations on settled caches

Settled caches keep what the collaborators answer, token indexes with proper names, and plugins that
one can rely on. On such caches nothing that is kept makes a difference for a compilation, but for
the token index that it works with.

* `compileTree_settled`: a compilation leaves the caches settled, and what its result depends on.
-/

namespace SceneCompiler

/-- Two conditions on the one outcome of steps without effects. -/
theorem ensures_and {α : Type} {x : CacheM Id α} {c : Caches Id} {p q : α → Caches Id → Prop}
    (hp : Ensures x c p) (hq : Ensures x c q) : Ensures x c fun a d => p a d ∧ q a d :=
  ensures_id.mpr ⟨ensures_id.mp hp, ensures_id.mp hq⟩

/-- A stage with hooks: its value and the plugin that goes on. -/
theorem ensures_stage {α : Type} {c : Caches Id} (x : Id (α × Option (Channel Id))) :
    Ensures (liftM x : CacheM Id _) c fun o d => o.1 = x.run.1 ∧ o.2 = x.run.2 ∧ d = c :=
  ensures_id.mpr ⟨rfl, rfl, rfl⟩

/-- Everything that is kept can be relied on. -/
structure Caches.Settled (c : Caches Id) (s : Session Id) (T : Option (Channel Id) → Prop) :
    Prop where
  faithful : c.Faithful s
  sound : c.Sound
  trusted : ∀ (key : CacheKey) (channel : Channel Id), c.plugins[key]? = some channel →
    T (some channel)

/-- A condition on plugins that calls of hooks keep, and that is no matter where there is none. -/
structure Lasting (T : Option (Channel Id) → Prop) : Prop where
  none : T none
  same : ∀ p p', SamePlugin p p' → T p → T p'

namespace Session

variable {s : Session Id} {c : Caches Id} {T : Option (Channel Id) → Prop}

theorem settled_empty (s : Session Id) (T : Option (Channel Id) → Prop) :
    Caches.Settled {} s T :=
  ⟨faithful_empty s, Caches.sound_empty, by simp⟩

/-! ## The index -/

/-- The index that a compilation works with: the kept one, extended by the candidates that it
lacks. -/
def workingIndex (answer : HookKind → Json → Option Json) (candidates : List TokenCandidate)
    (options : CompileOptions) (kept : Option TokenIndex) : TokenIndex :=
  let index := kept.getD {}
  let missing := index.missing candidates
  index.extend missing
    (missing.map fun c => (answer .transformVariable (c.payload options)).bind Json.text?)

/-- The index that a compilation has worked with has all of its candidates, so it is the one that
the next compilation with these candidates works with. -/
theorem workingIndex_workingIndex (answer : HookKind → Json → Option Json)
    (candidates : List TokenCandidate) (options : CompileOptions) (kept : Option TokenIndex) :
    workingIndex answer candidates options (some (workingIndex answer candidates options kept))
      = workingIndex answer candidates options kept := by
  -- A candidate was known before, or it was missing and has been added.
  have hmissing : (workingIndex answer candidates options kept).missing candidates = [] := by
    refine List.filter_eq_nil_iff.mpr fun c hc => ?_
    unfold workingIndex
    dsimp only
    rw [TokenIndex.knows_extend]
    by_cases hknown : (kept.getD {}).knows c.id
    · simp [hknown]
    · have hmem : c ∈ (kept.getD {}).missing candidates :=
        List.mem_filter.mpr ⟨hc, by simp [hknown]⟩
      have hany : ((kept.getD {}).missing candidates).any (fun d => c.id == d.id) = true :=
        List.any_eq_true.mpr ⟨c, hmem, by simp⟩
      rw [hany]
      simp
  generalize workingIndex answer candidates options kept = x at hmissing ⊢
  unfold workingIndex
  dsimp only [Option.getD_some]
  rw [hmissing]
  rfl

theorem tokenIndex_working (plugin : Option (Channel Id)) (candidates : List TokenCandidate)
    (options : CompileOptions) :
    Ensures (tokenIndex plugin candidates options) c fun o d => SamePlugin plugin o.2
      ∧ d.uploads = c.uploads ∧ d.images = c.images ∧ d.favicons = c.favicons
      ∧ ∀ answer, Gives plugin answer →
        o.1 = workingIndex answer candidates options
          c.tokenIndexes[CacheKey.of options.scale (plugin.map (·.fingerprint))]? := by
  unfold tokenIndex
  refine ensures_get_bind ?_
  dsimp only
  split
  · next hhit =>
    refine ensures_pure ⟨.refl plugin, rfl, rfl, rfl, fun answer _ => ?_⟩
    simp only [Bool.and_eq_true, List.isEmpty_iff] at hhit
    unfold workingIndex
    dsimp only
    rw [hhit.2]
    rfl
  · refine (ensures_stage _).bind ?_
    rintro ⟨names, plugin'⟩ _ ⟨hnames, hplugin', rfl⟩
    dsimp only at hnames hplugin'
    refine (ensures_modify (p := fun _ d => d = Caches.storeTokenIndex _ _ _) rfl).bind ?_
    rintro _ _ rfl
    refine ensures_pure ⟨hplugin' ▸ hookTexts_same plugin _ _, rfl, rfl, rfl,
      fun answer hanswer => ?_⟩
    rw [hnames]
    refine congrArg (TokenIndex.extend _ _) ((hookTexts_gives hanswer _ _).trans ?_)
    rw [List.map_map]
    rfl

/-- The index leaves the caches settled, and is kept under its key. -/
theorem tokenIndex_settled (hc : c.Settled s T) (plugin : Option (Channel Id))
    (candidates : List TokenCandidate) (options : CompileOptions) :
    Ensures (tokenIndex plugin candidates options) c fun o d =>
      d.Settled s T ∧ SamePlugin plugin o.2
      ∧ d.tokenIndexes[CacheKey.of options.scale (plugin.map (·.fingerprint))]? = some o.1
      ∧ ∀ answer, Gives plugin answer → o.1 = workingIndex answer candidates options
        c.tokenIndexes[CacheKey.of options.scale (plugin.map (·.fingerprint))]? := by
  refine (ensures_and (tokenIndex_ensures plugin candidates options)
    (tokenIndex_working plugin candidates options)).imp ?_
  rintro o d ⟨⟨hindexed, hplugins⟩, hsame, huploads, himages, hfavicons, hworking⟩
  refine ⟨⟨⟨?_, ?_, ?_⟩, ⟨hc.sound.tokenIndexes hindexed, ?_⟩, ?_⟩, hsame, hindexed.found, hworking⟩
  · rw [huploads]; exact hc.faithful.uploads
  · rw [himages]; exact hc.faithful.images
  · rw [hfavicons]; exact hc.faithful.favicons
  · rw [hplugins]; exact hc.sound.plugins
  · rw [hplugins]; exact hc.trusted

/-! ## One compilation -/

/-- The result that is put together from the parts of a compilation. -/
def assemble (tree : VisibleTree) (options : CompileOptions) (pictures : Pictures)
    (title markup sheet : String) (tokens : TextMap) : CompileResult :=
  let css := styleCode (if options.emitTokens then tokenBlock tokens else "") sheet
  let blocks := (codeBlocks options title markup css).map (·.cut options.maxCodeBytes)
  { blocks := blocks.map (·.1)
    warnings := blocks.filterMap (·.2) ++ tree.warnings
    assets := pictures.descriptors
    tokens }

/-- The component of a tree with its pictures and texts. -/
def componentOf (g : SceneGraph) (tree : VisibleTree) (pictures : Pictures)
    (texts : Std.ExtTreeMap NodeId (List TextBlock)) : ComponentTree :=
  (MarkupSource.mk tree tree.classNames (g.planAssets tree) pictures.references texts).component

/-- The part of a compilation that follows once its index is there and its styles are corrected. -/
def writeTree (s : Session Id) (g : SceneGraph) (tree : VisibleTree) (options : CompileOptions)
    (index : TokenIndex) (plugin : Option (Channel Id)) (styles : StyleMap) :
    CacheM Id CompileResult := do
  let (styles, plugin) ← (transformPixels plugin styles : Id _)
  let pictures ← s.exportPictures g tree (g.planAssets tree) options
  let styles := pictures.setBackgrounds tree styles
  let texts ← s.collectTexts g tree
  let (bodies, plugin) ← (ruleBodies plugin tree.order styles : Id _)
  let component := componentOf g tree pictures texts
  let (markup, plugin) ← (componentCode plugin component : Id _)
  keepPlugin options plugin
  return assemble tree options pictures component.name markup
    (stylesheet tree tree.classNames bodies) (tokenValues index g.variableTable styles)

theorem compileTree_eq (s : Session Id) (g : SceneGraph) (tree : VisibleTree)
    (plugin : Option (Channel Id)) (options : CompileOptions) :
    s.compileTree g tree plugin options = (do
      let styles ← (s.collectStyles g tree : CacheM Id StyleMap)
      let (index, plugin) ← tokenIndex plugin (g.tokenCandidates tree) options
      s.writeTree g tree options index plugin
        (StyleMap.sanitize tree (StyleMap.rewriteTokens styles index.rewriteTable))) :=
  rfl

/-- Steps that touch the caches of uploads, image bytes and favicons only. -/
theorem exists_settled {α : Type} {x : CacheM Id α} (hx : Determined (Caches.Faithful · s) x)
    (hframe : ∀ c, Keeps (Caches.SameButPictures c) x) :
    ∃ a, ∀ c : Caches Id, c.Settled s T →
      Ensures x c fun b d => b = a ∧ d.Settled s T ∧ d.tokenIndexes = c.tokenIndexes := by
  obtain ⟨a, ha⟩ := hx
  refine ⟨a, fun c hc => (ensures_and (ha c hc.faithful) (hframe c c (.refl c))).imp ?_⟩
  rintro b d ⟨⟨rfl, hd⟩, hsame⟩
  refine ⟨rfl, ⟨hd, ⟨?_, ?_⟩, ?_⟩, hsame.indexes⟩
  · rw [hsame.indexes]; exact hc.sound.indexes
  · rw [hsame.plugins]; exact hc.sound.plugins
  · rw [hsame.plugins]; exact hc.trusted

/-- Keeping a plugin that can be relied on. -/
theorem insertPlugin_settled (hc : c.Settled s T) {channel : Channel Id}
    (hchannel : T (some channel)) (scale : Float32) :
    Caches.Settled { c with
      plugins := c.plugins.insert (CacheKey.of scale (some channel.fingerprint)) channel } s T := by
  refine ⟨⟨hc.faithful.uploads, hc.faithful.images, hc.faithful.favicons⟩,
    hc.sound.insertPlugin channel scale, ?_⟩
  intro key channel' h
  rw [Std.ExtTreeMap.getElem?_insert] at h
  split at h
  · rwa [← Option.some.inj h]
  · exact hc.trusted key channel' h

theorem keepPlugin_settled (hc : c.Settled s T) {plugin : Option (Channel Id)} (hplugin : T plugin)
    (options : CompileOptions) :
    Ensures (keepPlugin options plugin) c fun _ d =>
      d.Settled s T ∧ d.tokenIndexes = c.tokenIndexes := by
  unfold keepPlugin
  cases plugin with
  | none => exact ensures_pure ⟨hc, rfl⟩
  | some channel => exact ensures_modify ⟨insertPlugin_settled hc hplugin options.scale, rfl⟩

/-- The rest of a compilation leaves the caches settled. Where the hooks have given answers, its
result depends on the index only through the values of the tokens in the final styles. -/
theorem writeTree_ensures (hstore : s.StoresByHash) (hT : Lasting T)
    (answer : HookKind → Json → Option Json) (g : SceneGraph) (tree : VisibleTree)
    (options : CompileOptions) (styles : StyleMap) :
    ∃ (final : StyleMap) (build : TextMap → CompileResult),
      (∀ tokens, (build tokens).tokens = tokens)
      ∧ ∀ (index : TokenIndex) (plugin : Option (Channel Id)) (c : Caches Id), T plugin →
        c.Settled s T → Ensures (s.writeTree g tree options index plugin styles) c fun r d =>
          d.Settled s T ∧ d.tokenIndexes = c.tokenIndexes
            ∧ (Gives plugin answer → r = build (tokenValues index g.variableTable final)) := by
  -- Each stage has one value for all plugins with these answers, or for all settled caches.
  obtain ⟨replaced, hreplaced⟩ := transformPixels_gives answer styles
  obtain ⟨pictures, hpictures⟩ := exists_settled (T := T)
    ((pictureSteps_determined hstore).exportPictures g tree (g.planAssets tree) options)
    fun c => (pictureSteps_keeps s c).exportPictures g tree (g.planAssets tree) options
  obtain ⟨texts, htexts⟩ := exists_settled (T := T)
    ((pictureSteps_determined hstore).collectTexts g tree)
    fun c => (pictureSteps_keeps s c).collectTexts g tree
  obtain ⟨bodies, hbodies⟩ := ruleBodies_gives answer tree.order
    (pictures.setBackgrounds tree replaced)
  obtain ⟨markup, hmarkup⟩ := componentCode_gives answer (componentOf g tree pictures texts)
  refine ⟨pictures.setBackgrounds tree replaced, assemble tree options pictures
    (componentOf g tree pictures texts).name markup (stylesheet tree tree.classNames bodies),
    fun _ => rfl, fun index plugin c hplugin hc => ?_⟩
  unfold writeTree
  refine (ensures_stage _).bind ?_
  rintro ⟨styles₁, plugin₁⟩ _ ⟨hstyles₁, hplugin₁, rfl⟩
  dsimp only at hstyles₁ hplugin₁
  refine (hpictures _ hc).bind fun pictures' d ⟨heq, hd, hindexes⟩ => ?_
  subst pictures'
  refine (htexts d hd).bind fun texts' e ⟨heq, he, hindexes'⟩ => ?_
  subst texts'
  refine (ensures_stage _).bind ?_
  rintro ⟨bodies₂, plugin₂⟩ _ ⟨hbodies₂, hplugin₂, rfl⟩
  dsimp only at hbodies₂ hplugin₂
  refine (ensures_stage _).bind ?_
  rintro ⟨markup₃, plugin₃⟩ _ ⟨hmarkup₃, hplugin₃, rfl⟩
  dsimp only at hmarkup₃ hplugin₃
  -- The plugin that is put back is the one from the start, with another number at most.
  have hsame₁ : SamePlugin plugin plugin₁ := hplugin₁ ▸ transformPixels_same plugin styles
  have hsame₂ : SamePlugin plugin plugin₂ := hsame₁.trans (hplugin₂ ▸ ruleBodies_same _ _ _)
  have hsame₃ : SamePlugin plugin plugin₃ := hsame₂.trans (hplugin₃ ▸ componentCode_same _ _)
  refine (keepPlugin_settled he (hT.same _ _ hsame₃ hplugin) options).bind ?_
  rintro _ f ⟨hf, hindexes''⟩
  refine ensures_pure ⟨hf, hindexes''.trans (hindexes'.trans hindexes), fun hanswer => ?_⟩
  rw [hstyles₁, hreplaced plugin hanswer] at hbodies₂ ⊢
  rw [hbodies₂, hbodies plugin₁ (hanswer.same hsame₁), hmarkup₃,
    hmarkup plugin₂ (hanswer.same hsame₂)]

/-- A compilation leaves the caches settled. Where the hooks have given answers, its result and the
index that it leaves behind depend on the caches only through the index that was kept. -/
theorem compileTree_settled (hstore : s.StoresByHash) (hT : Lasting T)
    (answer : HookKind → Json → Option Json) (g : SceneGraph) (tree : VisibleTree)
    (options : CompileOptions) :
    ∃ (final : StyleMap → StyleMap) (build : StyleMap → TextMap → CompileResult),
      (∀ styles tokens, (build styles tokens).tokens = tokens)
      ∧ ∀ (plugin : Option (Channel Id)) (c : Caches Id) (key : CacheKey), T plugin →
        c.Settled s T → key = CacheKey.of options.scale (plugin.map (·.fingerprint)) →
        Ensures (s.compileTree g tree plugin options) c fun r d => d.Settled s T
          ∧ (Gives plugin answer →
            let x := workingIndex answer (g.tokenCandidates tree) options c.tokenIndexes[key]?
            let styles := StyleMap.rewriteTokens (s.collectStyles g tree) x.rewriteTable
            d.tokenIndexes[key]? = some x
              ∧ r = build styles (tokenValues x g.variableTable (final styles))) := by
  choose final build htokens hwrite using
    fun styles => writeTree_ensures hstore hT answer g tree options (StyleMap.sanitize tree styles)
  refine ⟨final, build, htokens, ?_⟩
  rintro plugin c _ hplugin hc rfl
  rw [compileTree_eq]
  refine (ensures_lift_answer (answers_id.mpr rfl)).bind ?_
  rintro styles _ ⟨hstyles, rfl⟩
  refine (tokenIndex_settled hc plugin _ options).bind ?_
  rintro ⟨x, plugin'⟩ d ⟨hd, hsame, hfound, hworking⟩
  refine (hwrite _ x plugin' d (hT.same _ _ hsame hplugin) hd).imp ?_
  rintro r e ⟨he, hindexes, hresult⟩
  refine ⟨he, fun hanswer => ?_⟩
  obtain rfl := hworking answer hanswer
  dsimp only
  rw [hindexes, ← hstyles]
  exact ⟨hfound, hresult (hanswer.same hsame)⟩

end Session

end SceneCompiler
