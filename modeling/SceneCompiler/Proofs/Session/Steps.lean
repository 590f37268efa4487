import Mathlib
import SceneCompiler.Compile.Pictures
import SceneCompiler.Proofs.Session.Ensures
/-!
# Conditions on steps

The pictures and the texts of a compilation are collected by steps one after the other. A condition
that holds of steps one after the other if it holds of each of them therefore holds of the whole, as
soon as it holds of the few steps that talk to a collaborator.

* `PictureSteps.exportPictures`: the pictures of a plan.
* `PictureSteps.collectTexts`: the texts of a tree, with their links marked.
-/

namespace SceneCompiler

variable {m : Type → Type} [Monad m]

/-! ## Steps one after the other -/

/-- A condition that steps one after the other satisfy if each of them does. -/
structure Sequential (P : {α : Type} → CacheM m α → Prop) : Prop where
  pure {α : Type} (a : α) : P (pure a)
  bind {α β : Type} {x : CacheM m α} {f : α → CacheM m β} : P x → (∀ a, P (f a)) → P (x >>= f)

namespace Sequential

variable {P : {α : Type} → CacheM m α → Prop} {α β : Type}

theorem mapM [LawfulMonad m] (hP : Sequential P) {f : β → CacheM m α} (hf : ∀ b, P (f b))
    (l : List β) : P (l.mapM f) := by
  induction l with
  | nil => exact hP.pure []
  | cons b rest ih =>
    rw [List.mapM_cons]
    exact hP.bind (hf b) fun a => hP.bind ih fun as => hP.pure (a :: as)

theorem foldlM (hP : Sequential P) {f : α → β → CacheM m α} (hf : ∀ a b, P (f a b)) (l : List β) :
    ∀ a : α, P (l.foldlM f a) := by
  induction l with
  | nil => exact fun a => hP.pure a
  | cons b rest ih =>
    intro a
    rw [List.foldlM_cons]
    exact hP.bind (hf a b) ih

end Sequential

/-! ## Pictures and texts -/

/-- A condition of that kind which holds of the steps that talk to the collaborators of a session
about pictures and links. -/
structure PictureSteps (s : Session m) (P : {α : Type} → CacheM m α → Prop) : Prop
    extends Sequential P where
  exportSvg (id : NodeId) : P (liftM (s.exportSvg id))
  image (hash : String) : P (s.image hash)
  upload (hash mediaType : String) (bytes : ByteArray) : P (s.upload hash mediaType bytes)
  favicon (domain : String) : P (s.favicon domain)

namespace PictureSteps

variable {s : Session m} {P : {α : Type} → CacheM m α → Prop}

theorem exportVector (hP : PictureSteps s P) (id : NodeId) (bounds : Box) (unit : LengthUnit) :
    P (s.exportVector id bounds unit) := by
  unfold Session.exportVector
  refine hP.bind (hP.exportSvg id) fun drawn => ?_
  cases drawn with
  | error _ => exact hP.pure _
  | ok drawn =>
    refine hP.bind (hP.upload _ _ _) fun url => ?_
    cases url <;> exact hP.pure _

theorem uploadImage (hP : PictureSteps s P) (bounds : Box) (hash : String) :
    P (s.uploadImage bounds hash) := by
  unfold Session.uploadImage
  refine hP.bind (hP.image hash) fun bytes => ?_
  cases bytes with
  | none => exact hP.pure _
  | some bytes => exact hP.bind (hP.upload _ _ _) fun url => hP.pure _

theorem markLink (hP : PictureSteps s P) (r : TextRun) : P (s.markLink r) := by
  unfold Session.markLink
  split
  · exact hP.pure _
  · refine hP.bind (hP.favicon _) fun icon => ?_
    cases icon <;> exact hP.pure _

variable [LawfulMonad m]

theorem exportImages (hP : PictureSteps s P) (n : SceneNode) (options : CompileOptions) :
    P (s.exportImages n options) := by
  unfold Session.exportImages
  exact hP.bind (hP.mapM (hP.uploadImage n.bounds) _) fun uploaded => hP.pure _

theorem exportPictures (hP : PictureSteps s P) (g : SceneGraph) (t : VisibleTree) (plan : AssetPlan)
    (options : CompileOptions) : P (s.exportPictures g t plan options) := by
  have hvector : ∀ id, P (s.vectorOf t options id) := by
    intro id
    unfold Session.vectorOf
    split
    · exact hP.pure _
    · exact hP.bind (hP.exportVector id _ _) fun asset => hP.pure _
  have himages : ∀ id, P (s.imagesOf g t options id) := by
    intro id
    unfold Session.imagesOf
    split
    · exact hP.bind (hP.exportImages _ options) fun asset => hP.pure _
    · exact hP.pure _
  unfold Session.exportPictures
  exact hP.bind (hP.mapM hvector _) fun vectors =>
    hP.bind (hP.mapM himages _) fun images => hP.pure _

theorem collectTexts (hP : PictureSteps s P) (g : SceneGraph) (t : VisibleTree) :
    P (s.collectTexts g t) := by
  have hline : ∀ line : TextLine, P (line.mapRuns s.markLink) := fun line =>
    hP.bind (hP.mapM hP.markLink _) fun runs => hP.pure _
  have hblock : ∀ b : TextBlock, P (b.mapRuns s.markLink) := fun b =>
    hP.bind (hP.mapM hline _) fun lines => hP.pure _
  unfold Session.collectTexts
  refine hP.foldlM (fun texts id => ?_) _ _
  split
  · exact hP.bind (hP.mapM hblock _) fun blocks => hP.pure _
  · exact hP.pure _

end PictureSteps

end SceneCompiler
