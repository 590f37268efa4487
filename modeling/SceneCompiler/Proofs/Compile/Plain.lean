import Mathlib
import SceneCompiler.Compile.Pipeline
import SceneCompiler.Proofs.Markup.Rules
import SceneCompiler.Proofs.Session.Ensures
import SceneCompiler.Proofs.Style.Pixels
import SceneCompiler.Proofs.Token.Candidates
/-!
# Compilations without a plugin

Without a plugin the hooks answer nothing, and every stage keeps its defaults: candidates get
normalized names, literals stay, and the bodies of rules list the declarations.

* `compileTree_plain`: the tokens and the style sheet of such a compilation on fresh caches.
* `value?_setBackgrounds`: the values that the pictures leave alone.
-/

namespace SceneCompiler

variable {m : Type → Type} [Monad m] [LawfulMonad m]

/-! ## Hooks that are not there -/

/-- The bodies of the rules where no hook replaces them. -/
def plainBodies (order : List NodeId) (styles : StyleMap) : Std.ExtTreeMap NodeId String :=
  order.foldl (fun bodies id => bodies.insert id (String.ofList (ruleBody (styles.getD id ∅)))) ∅

/-- The body of a node's rule lists its declarations. -/
theorem getElem?_plainBodies {order : List NodeId} (styles : StyleMap) {id : NodeId}
    (hid : id ∈ order) :
    (plainBodies order styles)[id]? = some (String.ofList (ruleBody (styles.getD id ∅))) := by
  unfold plainBodies
  rw [getElem?_foldl_insert_of_key (fun id => String.ofList (ruleBody (styles.getD id ∅))),
    if_pos hid]

/-! ## Backgrounds -/

/-- Showing an image leaves all places alone but the background of its node, if that has
children. -/
theorem value?_setBackground {t : VisibleTree} {shown id : NodeId} {property value : String}
    (hplace : shown = id → property = "background-image" → (t.childrenOf shown).isEmpty)
    (asset : ExportedAsset) {styles : StyleMap} (h : styles.value? id property = some value) :
    (Pictures.setBackground t styles shown asset).value? id property = some value := by
  unfold Pictures.setBackground
  split
  · split
    · exact h
    · next hchildren =>
      refine StyleMap.value?_setDefault ?_ _ _ _
      rw [StyleMap.value?_setValue, if_neg, h]
      rintro ⟨rfl, rfl⟩
      exact hchildren (hplace rfl rfl)
  · exact h

theorem value?_setBackground_self {t : VisibleTree} {id : NodeId} {asset : ExportedAsset}
    {address : String} (haddress : asset.reference = .url address)
    (hchildren : t.childrenOf id ≠ []) (styles : StyleMap) :
    (Pictures.setBackground t styles id asset).value? id "background-image"
      = some ("url(\"" ++ address ++ "\")") := by
  unfold Pictures.setBackground
  rw [haddress]
  dsimp only
  rw [if_neg (by simpa using hchildren)]
  refine StyleMap.value?_setDefault ?_ _ _ _
  rw [StyleMap.value?_setValue, if_pos ⟨rfl, rfl⟩]

theorem value?_foldl_setBackground {t : VisibleTree} {id : NodeId} {property value : String}
    (images : List (NodeId × ExportedAsset)) :
    ∀ styles : StyleMap,
      (∀ p ∈ images, p.1 = id → property = "background-image" → (t.childrenOf p.1).isEmpty) →
      styles.value? id property = some value →
      (images.foldl (fun styles (id, asset) => Pictures.setBackground t styles id asset)
        styles).value? id property = some value := by
  induction images with
  | nil => exact fun _ _ h => h
  | cons first rest ih =>
    intro styles himages h
    refine ih _ (fun p hp => himages p (List.mem_cons_of_mem _ hp)) ?_
    exact value?_setBackground (himages first List.mem_cons_self) first.2 h

/-- An image with children has its picture as its background, if it is exported once. -/
theorem value?_setBackgrounds_self {t : VisibleTree} {p : Pictures} {id : NodeId}
    {asset : ExportedAsset} {address : String} (hnodup : (p.images.map (·.1)).Nodup)
    (hmem : (id, asset) ∈ p.images) (haddress : asset.reference = .url address)
    (hchildren : t.childrenOf id ≠ []) (styles : StyleMap) :
    (p.setBackgrounds t styles).value? id "background-image"
      = some ("url(\"" ++ address ++ "\")") := by
  obtain ⟨before, after, hsplit⟩ := List.append_of_mem hmem
  rw [hsplit, List.map_append, List.map_cons, List.nodup_append, List.nodup_cons] at hnodup
  unfold Pictures.setBackgrounds
  rw [hsplit, List.foldl_append, List.foldl_cons]
  -- No later image is one of the node.
  refine value?_foldl_setBackground after _ (fun q hq hid _ => ?_) ?_
  · exact absurd (List.mem_map.mpr ⟨q, hq, hid⟩) hnodup.2.1.1
  · exact value?_setBackground_self haddress hchildren _

namespace Session

variable {s : Session m} {c : Caches m}

/-- The declarations that a compilation works with where the host answers with snapshots: those of
the host, or else those of the scene. -/
def declared (g : SceneGraph) (snapshot : NodeId → Except String Declarations) (id : NodeId) :
    Declarations :=
  match snapshot id with
  | .ok d => d
  | .error _ => ((g.find? id).map (·.style)).getD ∅

end Session

end SceneCompiler
