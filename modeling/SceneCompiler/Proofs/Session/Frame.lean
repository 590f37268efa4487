import Mathlib
import SceneCompiler.Proofs.Session.Steps
/-!
# Pictures and links leave the other caches alone

Exporting pictures and marking links use the caches of uploads, image bytes and favicons. They touch
neither the token indexes, nor the key of the index that was stored last, nor the plugins, whatever
the collaborators answer.

* `exportPictures_frame`: the pictures of a plan.
* `collectTexts_frame`: the links of a tree.
-/

namespace SceneCompiler

variable {m : Type → Type} [Monad m]

/-- Steps after which a condition on the caches still holds. -/
def Keeps (I : Caches m → Prop) {α : Type} (x : CacheM m α) : Prop :=
  ∀ c, I c → Ensures x c fun _ d => I d

theorem sequential_keeps [LawfulMonad m] (I : Caches m → Prop) : Sequential (Keeps I) where
  pure _ _ hc := ensures_pure hc
  bind hx hf c hc := (hx c hc).bind fun a d hd => hf a d hd

namespace Caches

/-- The caches differ in uploads, image bytes and favicons at most. -/
structure SameButPictures (c d : Caches m) : Prop where
  indexes : d.tokenIndexes = c.tokenIndexes
  lastKey : d.lastTokenKey = c.lastTokenKey
  plugins : d.plugins = c.plugins

omit [Monad m] in
theorem SameButPictures.refl (c : Caches m) : c.SameButPictures c := ⟨rfl, rfl, rfl⟩

end Caches

namespace Session

variable [LawfulMonad m] {s : Session m} {c₀ c : Caches m}

/-- The steps that fill the caches of uploads, image bytes and favicons. -/
theorem pictureSteps_keeps (s : Session m) (c₀ : Caches m) :
    PictureSteps s (Keeps c₀.SameButPictures) where
  toSequential := sequential_keeps _
  exportSvg id c hc := ensures_lift (.of_true fun _ => hc)
  image hash c hc := by
    unfold image
    refine ensures_get_bind ((ensures_trivial _).bind ?_)
    rintro ⟨bytes, images⟩ d -
    exact ensures_set_return ⟨hc.indexes, hc.lastKey, hc.plugins⟩
  upload hash mediaType bytes c hc := by
    unfold upload
    refine ensures_get_bind ((ensures_trivial _).bind ?_)
    rintro ⟨address, uploads⟩ d -
    exact ensures_set_return ⟨hc.indexes, hc.lastKey, hc.plugins⟩
  favicon domain c hc := by
    unfold favicon
    split
    · exact ensures_pure hc
    · refine ensures_get_bind ((ensures_trivial _).bind ?_)
      rintro ⟨icon, favicons⟩ d -
      exact ensures_set_return ⟨hc.indexes, hc.lastKey, hc.plugins⟩

theorem exportPictures_frame (g : SceneGraph) (t : VisibleTree) (plan : AssetPlan)
    (options : CompileOptions) (h : c₀.SameButPictures c) :
    Ensures (s.exportPictures g t plan options) c fun _ d => c₀.SameButPictures d :=
  (pictureSteps_keeps s c₀).exportPictures g t plan options c h

theorem collectTexts_frame (g : SceneGraph) (t : VisibleTree) (h : c₀.SameButPictures c) :
    Ensures (s.collectTexts g t) c fun _ d => c₀.SameButPictures d :=
  (pictureSteps_keeps s c₀).collectTexts g t c h

end Session

end SceneCompiler
