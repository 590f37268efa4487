import Mathlib
import SceneCompiler.Compile.Pipeline
import SceneCompiler.Proofs.Session.Frame
import SceneCompiler.Proofs.Table
import SceneCompiler.Proofs.Token.Bucket
import SceneCompiler.Proofs.Token.Rewriting
/-!
# The token index in a compilation

Each compilation works with the token index kept under its key. If the index knows all candidates it
is used as it is, and the session does not note that; else it is extended, stored, and noted as the
one that was stored last.

* `compileTree_ensures`: what one compilation does to the token indexes.
* `getElem?_tokenValues`: the tokens of its result.
-/

namespace SceneCompiler

variable {m : Type → Type} [Monad m]

namespace Caches

/-! ## One compilation -/

/-- A compilation led from some caches to others while it worked with an index under a key. -/
inductive Indexed (c d : Caches m) (key : CacheKey) (x : TokenIndex) : Prop where
  /-- The index was there and had all names; nothing is noted. -/
  | kept (found : c.tokenIndexes[key]? = some x) (indexes : d.tokenIndexes = c.tokenIndexes)
      (lastKey : d.lastTokenKey = c.lastTokenKey)
  /-- The index was extended and is the one that was stored last. -/
  | stored (candidates : List TokenCandidate) (chosen : List (Option String))
      (extended : x = (c.tokenIndexes[key]?.getD {}).extend candidates chosen)
      (indexes : d.tokenIndexes = c.tokenIndexes.insert key x) (lastKey : d.lastTokenKey = some key)

omit [Monad m] in
/-- Afterwards the index is kept under its key. -/
theorem Indexed.found {c d : Caches m} {key : CacheKey} {x : TokenIndex} (h : c.Indexed d key x) :
    d.tokenIndexes[key]? = some x := by
  cases h with
  | kept found indexes lastKey => rw [indexes, found]
  | stored candidates chosen extended indexes lastKey =>
    rw [indexes, Std.ExtTreeMap.getElem?_insert_self]

omit [Monad m] in
/-- Steps before it that leave the token indexes alone make no difference. -/
theorem Indexed.of_eq {c d e : Caches m} {key : CacheKey} {x : TokenIndex} (h : d.Indexed e key x)
    (hindexes : d.tokenIndexes = c.tokenIndexes) (hlast : d.lastTokenKey = c.lastTokenKey) :
    c.Indexed e key x := by
  cases h with
  | kept found indexes lastKey =>
    exact .kept (hindexes ▸ found) (indexes.trans hindexes) (lastKey.trans hlast)
  | stored candidates chosen extended indexes lastKey =>
    exact .stored candidates chosen (hindexes ▸ extended) (hindexes ▸ indexes) lastKey

omit [Monad m] in
/-- Nor do steps after it. -/
theorem Indexed.trans_eq {c d e : Caches m} {key : CacheKey} {x : TokenIndex}
    (h : c.Indexed d key x) (hindexes : e.tokenIndexes = d.tokenIndexes)
    (hlast : e.lastTokenKey = d.lastTokenKey) : c.Indexed e key x := by
  cases h with
  | kept found indexes lastKey =>
    exact .kept found (hindexes.trans indexes) (hlast.trans lastKey)
  | stored candidates chosen extended indexes lastKey =>
    exact .stored candidates chosen extended (hindexes.trans indexes) (hlast.trans lastKey)

/-- The token indexes have proper names, and plugins are kept under their own fingerprints. -/
structure Sound (c : Caches m) : Prop where
  indexes : ∀ (key : CacheKey) (x : TokenIndex), c.tokenIndexes[key]? = some x → x.Sound
  plugins : ∀ (key : CacheKey) (channel : Channel m),
    c.plugins[key]? = some channel → channel.fingerprint = key.fingerprint

omit [Monad m] in
theorem sound_empty : Sound ({} : Caches m) where
  indexes := by simp
  plugins := by simp

omit [Monad m] in
/-- The index of a compilation has proper names. -/
theorem Sound.index {c d : Caches m} {key : CacheKey} {x : TokenIndex} (hc : c.Sound)
    (h : c.Indexed d key x) : x.Sound := by
  cases h with
  | kept found indexes lastKey => exact hc.indexes key x found
  | stored candidates chosen extended indexes lastKey =>
    rw [extended]
    apply TokenIndex.Sound.extend
    cases hkey : c.tokenIndexes[key]? with
    | none => exact TokenIndex.sound_empty
    | some y => exact hc.indexes key y hkey

omit [Monad m] in
/-- So have all indexes after the compilation. -/
theorem Sound.tokenIndexes {c d : Caches m} {key : CacheKey} {x : TokenIndex} (hc : c.Sound)
    (h : c.Indexed d key x) (key' : CacheKey) (y : TokenIndex)
    (hy : d.tokenIndexes[key']? = some y) : y.Sound := by
  have hx := hc.index h
  cases h with
  | kept found indexes lastKey =>
    rw [indexes] at hy
    exact hc.indexes key' y hy
  | stored candidates chosen extended indexes lastKey =>
    rw [indexes, Std.ExtTreeMap.getElem?_insert] at hy
    split at hy
    · rwa [← Option.some.inj hy]
    · exact hc.indexes key' y hy

omit [Monad m] in
/-- Keeping a plugin under its fingerprint, at whatever scale. -/
theorem Sound.insertPlugin {c : Caches m} (hc : c.Sound) (channel : Channel m) (scale : Float32) :
    Sound { c with
      plugins := c.plugins.insert (CacheKey.of scale (some channel.fingerprint)) channel } where
  indexes := hc.indexes
  plugins := by
    intro key channel' h
    rw [Std.ExtTreeMap.getElem?_insert] at h
    split at h
    · next heq =>
      rw [← Option.some.inj h, ← Std.compare_eq_iff_eq.mp heq]
      rfl
    · exact hc.plugins key channel' h

end Caches

/-! ## The values of tokens -/

/-- The table has a value for every token that the styles refer to. -/
theorem getElem?_tokenValues (x : TokenIndex) (variableTable : VariableTable) (styles : StyleMap)
    (name : String) :
    (tokenValues x variableTable styles)[name]? =
      if name ∈ styles.referencedTokens x then some (x.resolveName variableTable name none)
      else none := by
  unfold tokenValues
  rw [getElem?_foldl_insert_of_key, Std.ExtTreeMap.getElem?_empty]

/-! ## The stages of a compilation -/

namespace Session

variable [LawfulMonad m] {s : Session m} {c : Caches m}

/-- The index of a compilation is the kept one or extends it. -/
theorem tokenIndex_ensures (plugin : Option (Channel m)) (candidates : List TokenCandidate)
    (options : CompileOptions) :
    Ensures (tokenIndex plugin candidates options) c fun o d =>
      c.Indexed d (CacheKey.of options.scale (plugin.map (·.fingerprint))) o.1
        ∧ d.plugins = c.plugins := by
  unfold tokenIndex
  refine ensures_get_bind ?_
  dsimp only
  split
  -- A complete index is used as it is, and nothing is noted.
  · next hhit =>
    refine ensures_pure ⟨?_, rfl⟩
    simp only [Bool.and_eq_true, Option.isSome_iff_exists] at hhit
    obtain ⟨⟨x, hx⟩, -⟩ := hhit
    rw [hx]
    exact .kept hx rfl rfl
  · refine (ensures_lift_any _).bind ?_
    rintro ⟨names, plugin'⟩ _ rfl
    refine (ensures_modify (p := fun _ d => d = Caches.storeTokenIndex _ _ _) rfl).bind ?_
    rintro _ _ rfl
    exact ensures_pure ⟨.stored _ _ rfl rfl rfl, rfl⟩

/-- Putting a plugin back leaves the token indexes alone. -/
theorem keepPlugin_ensures (options : CompileOptions) (plugin : Option (Channel m)) (hc : c.Sound) :
    Ensures (keepPlugin options plugin) c fun _ d =>
      d.Sound ∧ d.tokenIndexes = c.tokenIndexes ∧ d.lastTokenKey = c.lastTokenKey := by
  unfold keepPlugin
  cases plugin with
  | none => exact ensures_pure ⟨hc, rfl, rfl⟩
  | some channel => exact ensures_modify ⟨hc.insertPlugin channel options.scale, rfl, rfl⟩

/-- The tokens of a result are the values that the index of the compilation leads to. -/
theorem compileTree_ensures (g : SceneGraph) (tree : VisibleTree) (plugin : Option (Channel m))
    (options : CompileOptions) (hc : c.Sound) :
    Ensures (s.compileTree g tree plugin options) c fun r d => d.Sound ∧
      ∃ x styles, c.Indexed d (CacheKey.of options.scale (plugin.map (·.fingerprint))) x
        ∧ r.tokens = tokenValues x g.variableTable styles := by
  unfold compileTree
  refine (ensures_lift_any _).bind ?_
  rintro styles _ rfl
  refine (tokenIndex_ensures plugin _ options).bind ?_
  rintro ⟨x, plugin₁⟩ d ⟨hindexed, hplugins⟩
  have hd : d.Sound := ⟨hc.tokenIndexes hindexed, hplugins ▸ hc.plugins⟩
  refine (ensures_lift_any _).bind ?_
  rintro ⟨styles₂, plugin₂⟩ _ rfl
  refine (exportPictures_frame g tree _ options (.refl _)).bind fun pictures e he => ?_
  refine (collectTexts_frame g tree he).bind fun texts e he => ?_
  refine (ensures_lift_any _).bind ?_
  rintro ⟨bodies, plugin₃⟩ _ rfl
  refine (ensures_lift_any _).bind ?_
  rintro ⟨markup, plugin₄⟩ _ rfl
  have hsound : Caches.Sound _ := ⟨he.indexes ▸ hd.indexes, he.plugins ▸ hd.plugins⟩
  refine (keepPlugin_ensures options plugin₄ hsound).bind ?_
  rintro _ e' ⟨hsound', hindexes, hlast⟩
  refine ensures_pure ⟨hsound', x, _, ?_, rfl⟩
  exact hindexed.trans_eq (hindexes.trans he.indexes) (hlast.trans he.lastKey)

end Session

end SceneCompiler
