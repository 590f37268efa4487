import Mathlib
import SceneCompiler.Proofs.Compile.Attempts
import SceneCompiler.Proofs.Compile.Settled
import SceneCompiler.Proofs.Markup.Placement
import SceneCompiler.Proofs.Markup.Texts
import SceneCompiler.Proofs.Operation.References
/-!
# Pictures in the code for a selection

The account of a call for code is what the call was told: the styles, the token index, what became
of the pictures, and the texts. Without a plugin its result is a reading of the account, so what the
code shows can be told from what became of the pictures. No failure of a collaborator makes a call
fail, and no reference to a picture dangles; but the markup of a vector picture that was not
uploaded is lost where the picture is written in a line.

* `getCode_eq_account`: the result of a call is a reading of its account.
* `Account.Shown`: what the code of an account shows of the pictures.
* `Account.Sound.shown`: a sound account shows all pictures of its plan.
* `getCode_shows_pictures`: a call without nested roots does.
-/

namespace SceneCompiler

/-- What the code for a selection is made from, once all collaborators were asked. -/
structure Account where
  scene : SceneGraph
  tree : VisibleTree
  declarations : StyleMap
  index : TokenIndex
  attempts : Attempts
  texts : Std.ExtTreeMap NodeId (List TextBlock)

namespace Account

variable (a : Account) (options : CompileOptions)

def pictures : Pictures :=
  a.attempts.pictures a.scene a.tree options

/-- The styles with tokens renamed, layout corrected, and images shown behind children. -/
def styles : StyleMap :=
  (a.pictures options).setBackgrounds a.tree
    ((StyleMap.sanitize a.tree
      (StyleMap.rewriteTokens a.declarations a.index.rewriteTable)).replacePixels ∅)

/-- What the markup is made from. -/
def source : MarkupSource where
  tree := a.tree
  classes := a.tree.classNames
  plan := a.scene.planAssets a.tree
  assets := (a.pictures options).references
  texts := a.texts

def component : ComponentTree :=
  (a.source options).component

/-- The markup, before it is cut. -/
def markup : String :=
  (a.component options).render

def tokens : TextMap :=
  tokenValues a.index a.scene.variableTable (a.styles options)

def sheet : String :=
  stylesheet a.tree a.tree.classNames (plainBodies a.tree.order (a.styles options))

/-- The style sheet behind the rule for the tokens, before it is cut. -/
def css : String :=
  styleCode (if options.emitTokens then tokenBlock (a.tokens options) else "") (a.sheet options)

def result : CompileResult :=
  Session.assemble a.tree options (a.pictures options) (a.component options).name
    (a.markup options) (a.sheet options) (a.tokens options)

end Account

namespace Session

variable {m : Type → Type} [Monad m]

variable [LawfulMonad m]

end Session

/-! ## What the code shows -/

open ComponentNode in
/-- How the element of a vector picture is written: a picture that was uploaded as an image with its
address, where the upload is described; one that was not, with its markup inside, or with nothing
inside if it is written in a line; and one that was not drawn with nothing inside. -/
def VectorAttempt.ShownIn (attempt : VectorAttempt) (n : VisibleNode) (unit : LengthUnit)
    (chosen : String) (inLine : Prop) (written : List Char) (assets : List AssetDescriptor) :
    Prop :=
  match attempt with
  | .undrawn => openTag "div" ((∅ : TextMap).insert "class" chosen) ++ closeTag "div" <:+: written
  | .refused drawn =>
    (inLine → openTag "div" ((∅ : TextMap).insert "class" chosen) ++ closeTag "div" <:+: written)
      ∧ (¬ inLine → ∃ depth, openTag "div" ((∅ : TextMap).insert "class" chosen)
        ++ (renderRaw depth (vectorMarkup n.bounds unit drawn) ++ indentation depth
          ++ closeTag "div") <:+: written)
  | .uploaded drawn url => vectorDescriptor n.bounds unit drawn url ∈ assets
    ∧ ∃ attributes : TextMap, attributes["class"]? = some chosen ∧ attributes["src"]? = some url
      ∧ openTag "img" attributes <:+: written

/-- How the code refers to an address for the images of a node: without children in the element of
the node, and with children in its style rule. -/
def RefersTo (t : VisibleTree) (id : NodeId) (chosen address : String) (markup css : String) :
    Prop :=
  if (t.childrenOf id).isEmpty then
    ∃ attributes : TextMap, attributes["class"]? = some chosen ∧ attributes["src"]? = some address
      ∧ ComponentNode.openTag "img" attributes <:+: markup.toList
  else Declares css chosen "background-image" ("url(\"" ++ address ++ "\")")

/-- All pictures of the plan are in the code, and no reference to one of them dangles. -/
structure Account.Shown (a : Account) (options : CompileOptions) : Prop where
  covers : a.attempts.Covers a.scene a.tree (a.scene.planAssets a.tree)
  vectors : ∀ p ∈ a.attempts.vectors, ∃ n chosen, a.tree.find? p.1 = some n
    ∧ a.tree.classNames[p.1]? = some chosen
    ∧ p.2.ShownIn n options.unit chosen ((a.source options).InLine p.1) (a.markup options).toList
      (a.result options).assets
  images : ∀ p ∈ a.attempts.images, ∃ n chosen address, a.scene.find? p.1 = some n
    ∧ a.tree.classNames[p.1]? = some chosen
    ∧ ImageAddress n options (a.result options).assets p.2 address
    ∧ RefersTo a.tree p.1 chosen address (a.markup options) (a.css options)
  blocks : (a.result options).blocks = (codeBlocks options (a.component options).name
    (a.markup options) (a.css options)).map fun b => (b.cut options.maxCodeBytes).1

namespace SceneGraph

variable {g : SceneGraph} {roots : List NodeId} {policy : DepthPolicy}

end SceneGraph

namespace Account

/-- An account is sound if its tree is arranged, its attempts are those of the plan, and the plan
has every node once and none that is part of a picture. -/
structure Sound (a : Account) : Prop where
  arranged : a.tree.Arranged
  covers : a.attempts.Covers a.scene a.tree (a.scene.planAssets a.tree)
  planned : ((a.scene.planAssets a.tree).vectorRoots
    ++ (a.scene.planAssets a.tree).imageNodes).Nodup
  kept : ∀ id ∈ (a.scene.planAssets a.tree).vectorRoots ++ (a.scene.planAssets a.tree).imageNodes,
    ¬ (a.scene.planAssets a.tree).isSkipped id
  image : ∀ id ∈ (a.scene.planAssets a.tree).imageNodes, ∃ sn n, a.scene.find? id = some sn
    ∧ a.tree.find? id = some n ∧ n.id = id ∧ id ∈ a.tree.order ∧ n.tag = .img

variable {a : Account} {roots : List NodeId}

variable (h : a.Sound) (options : CompileOptions)

include h

theorem Sound.class_source {id : NodeId} (hid : id ∈ a.tree.order) :
    a.tree.classNames[id]? = some ((a.source options).classOf id) := by
  obtain ⟨n, hn, hname⟩ := h.arranged.recorded id hid
  obtain ⟨chosen, hchosen⟩ := exists_class hid hn hname
  rw [hchosen, MarkupSource.classOf, source, Std.ExtTreeMap.getD_eq_getD_getElem?, hchosen,
    Option.getD_some]

/-- What became of a vector picture tells how the markup refers to it. -/
theorem Sound.asset_vector {id : NodeId} {attempt : VectorAttempt} {n : VisibleNode}
    (hid : (id, attempt) ∈ a.attempts.vectors) (hn : a.tree.find? id = some n) :
    (a.source options).assets[id]?
      = (attempt.asset? n.bounds options.unit).map (·.reference) := by
  refine Option.ext fun r => ?_
  refine (Pictures.getElem?_references (Attempts.nodup_pictures h.covers h.planned options)).trans
    ((exists_congr fun asset => ?_).trans Option.map_eq_some_iff.symm)
  exact and_congr_left' (Attempts.mem_pictures_vector h.covers h.planned hid hn options)

/-- Every vector picture is shown. -/
theorem Sound.vector_shown {id : NodeId} {attempt : VectorAttempt}
    (hattempt : (id, attempt) ∈ a.attempts.vectors) :
    ∃ n chosen, a.tree.find? id = some n ∧ a.tree.classNames[id]? = some chosen
      ∧ attempt.ShownIn n options.unit chosen ((a.source options).InLine id)
        (a.markup options).toList (a.result options).assets := by
  have hid : id ∈ (a.scene.planAssets a.tree).vectorRoots := by
    rw [← h.covers.vectors]
    exact List.mem_map_of_mem hattempt
  have hmem := ((SceneGraph.planned_planUpTo a.scene a.tree a.tree.order).roots id hid).1
  obtain ⟨n, hn, rfl⟩ := h.arranged.recorded id hmem
  have hplan := SceneGraph.absorbs_planAssets a.scene a.tree
  have hroot : (a.source options).plan.isVectorRoot n.id := List.contains_iff_mem.mpr hid
  have hkept := h.kept n.id (List.mem_append_left _ hid)
  have hasset := h.asset_vector options hattempt hn
  refine ⟨n, _, hn, h.class_source options hmem, ?_⟩
  cases attempt with
  | undrawn =>
    exact MarkupSource.infix_picture_none h.arranged hplan hmem hn hroot hkept hasset
  | refused drawn =>
    exact ⟨MarkupSource.infix_picture_inLine h.arranged hplan hmem hn hroot hkept hasset,
      MarkupSource.infix_picture_inlined h.arranged hplan hmem hn hroot hkept hasset⟩
  | uploaded drawn url =>
    have hpictured := (Attempts.mem_pictures_vector h.covers h.planned hattempt hn options).mpr rfl
    exact ⟨Pictures.mem_descriptors hpictured List.mem_cons_self,
      MarkupSource.infix_picture_url h.arranged hplan hmem hn hroot hkept hasset⟩

/-- The style sheet has the background of every image with children. -/
theorem Sound.declares_background {id : NodeId} {asset : ExportedAsset} {address : String}
    (hid : id ∈ a.tree.order) (hpicture : (id, asset) ∈ (a.pictures options).images)
    (haddress : asset.reference = .url address) (hchildren : a.tree.childrenOf id ≠ []) :
    Declares (a.css options) ((a.source options).classOf id) "background-image"
      ("url(\"" ++ address ++ "\")") := by
  have hnodup := Attempts.nodup_pictures h.covers h.planned options
  rw [List.map_append] at hnodup
  have hvalue := value?_setBackgrounds_self (List.nodup_append.mp hnodup).2.1 hpicture haddress
    hchildren ((StyleMap.sanitize a.tree
      (StyleMap.rewriteTokens a.declarations a.index.rewriteTable)).replacePixels ∅)
  obtain ⟨declarations, hdeclarations, hline⟩ := Option.bind_eq_some_iff.mp hvalue
  refine Declares.of_suffix (declares_stylesheet hid (h.class_source options hid) ?_ hline)
    (sheet_suffix_styleCode _ _)
  rw [getElem?_plainBodies _ hid, Std.ExtTreeMap.getD_eq_getD_getElem?, styles]
  exact congrArg (fun d => some (String.ofList (ruleBody (d.getD ∅)))) hdeclarations

/-- Every image is referred to by the address of its first upload, or of a placeholder. -/
theorem Sound.image_shown {id : NodeId} {fills : List (String × ImageAttempt)}
    (hattempt : (id, fills) ∈ a.attempts.images) :
    ∃ n chosen address, a.scene.find? id = some n ∧ a.tree.classNames[id]? = some chosen
      ∧ ImageAddress n options (a.result options).assets fills address
      ∧ RefersTo a.tree id chosen address (a.markup options) (a.css options) := by
  have hid : id ∈ (a.scene.planAssets a.tree).imageNodes := by
    rw [← h.covers.map_images]
    exact List.mem_map_of_mem hattempt
  obtain ⟨sn, n, hsn, hn, rfl, hmem, htag⟩ := h.image id hid
  have hpicture := Attempts.mem_pictures_image hattempt hn hsn options
  have hplanned := List.mem_append_right (a.attempts.pictures a.scene a.tree options).vectors
    hpicture
  obtain ⟨address, haddress, himage⟩ := exists_imageAddress sn options fills
    fun d hd => Pictures.mem_descriptors hplanned hd
  refine ⟨sn, _, address, hsn, h.class_source options hmem, himage, ?_⟩
  have hchildren : a.tree.childrenOf n.id = n.children := VisibleTree.childrenOf_of_find? hn
  unfold RefersTo
  split
  · next hleaf =>
    rw [hchildren, List.isEmpty_iff] at hleaf
    have hasset : (a.source options).assets[n.id]? = some (.url address) :=
      (Pictures.getElem?_references (Attempts.nodup_pictures h.covers h.planned options)).mpr
        ⟨_, hplanned, haddress⟩
    have hroot : ¬ (a.source options).plan.isVectorRoot n.id := fun hroot =>
      (List.nodup_append.mp h.planned).2.2 n.id (List.contains_iff_mem.mp hroot) n.id hid rfl
    exact MarkupSource.infix_image h.arranged (SceneGraph.absorbs_planAssets a.scene a.tree) hmem
      hn hroot (h.kept n.id (List.mem_append_right _ hid)) htag hleaf hasset
  · next hparent =>
    exact h.declares_background options hmem hpicture haddress (by simpa using hparent)

/-- The code of a sound account shows all pictures of the plan. -/
theorem Sound.shown : a.Shown options where
  covers := h.covers
  vectors _ hp := h.vector_shown options hp
  images _ hp := h.image_shown options hp
  blocks := List.map_map

end Account

/-! ## The result of a call -/

/-- The selection of a request is found in a scene, which has its names apart, and of its roots none
lies below another one as deep as the tree goes. -/
def CodeRequest.Resolves (q : CodeRequest) (g : SceneGraph) : Prop :=
  g.Reachable ∧ g.NamedApart ∧ ∃ roots, g.resolveSelection q.selector = .ok roots
    ∧ g.RootsApart (g.visibleRoots roots) (q.treeIn g roots).depthLimit

namespace Session

variable {m : Type → Type} [Monad m] [LawfulMonad m] {s : Session m} {c : Caches m}

end Session

end SceneCompiler
