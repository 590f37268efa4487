import SceneCompiler.Markup.Component
import SceneCompiler.Proofs.Table
/-!
# Component trees read back

A component that a hook gets and gives back unchanged is the same component: what is written for a
tree is read as that tree.

* `ComponentTree.ofJson?_toJson`: the tree of its own JSON value.
-/

namespace SceneCompiler

/-! ## Texts by name -/

theorem Json.textMap?_ofTextMap (table : TextMap) :
    Json.textMap? (.ofTextMap table) = some table := by
  have hread : ∀ (entries : List (String × String)) (start : TextMap),
      (entries.map fun p => (p.1, Json.str p.2)).foldlM
          (fun (t : TextMap) p => (Json.text? p.2).map fun v => t.insert p.1 v) start
        = some (entries.foldl (fun t p => t.insert p.1 p.2) start) := by
    intro entries
    induction entries with
    | nil => exact fun _ => rfl
    | cons p rest ih => exact fun start => ih (start.insert p.1 p.2)
  have hall := hread table.toList ∅
  rw [foldl_insert_toList] at hall
  exact hall

/-! ## Nodes -/

namespace ComponentNode

/-- Nothing but the children of an element is recursive in it. -/
theorem ofJson?_element {tag : String} {attributes : TextMap} {children : List ComponentNode}
    {raw : Option String} (h : ofItems? (listToJson children) = some children) :
    ofJson? (toJson (.element tag attributes children raw))
      = some (.element tag attributes children raw) := by
  have hattributes := Json.textMap?_ofTextMap attributes
  cases raw with
  | none =>
    simp [toJson, ofJson?, childrenOfMembers?, ofChildren?, h, Json.fieldsOfMembers?, frame?,
      Json.Field.required?, Json.Field.withDefault?, Json.Field.optional?, Json.text?, hattributes]
  | some markup =>
    simp [toJson, ofJson?, childrenOfMembers?, ofChildren?, h, Json.fieldsOfMembers?, frame?,
      Json.Field.required?, Json.Field.withDefault?, Json.Field.optional?, Json.nullable?,
      Json.text?, hattributes]

mutual

theorem ofJson?_toJson : ∀ n : ComponentNode, ofJson? n.toJson = some n
  | .text s => by rw [toJson, ofJson?]
  | .element tag attributes children raw => ofJson?_element (ofItems?_listToJson children)

theorem ofItems?_listToJson : ∀ nodes : List ComponentNode,
    ofItems? (listToJson nodes) = some nodes
  | [] => by rw [listToJson, ofItems?]
  | n :: rest => by
    rw [listToJson, ofItems?, ofJson?_toJson n, ofItems?_listToJson rest]
    rfl

end

end ComponentNode

/-! ## Trees -/

theorem ComponentTree.ofJson?_toJson (t : ComponentTree) :
    ComponentTree.ofJson? t.toJson = some t := by
  have hroots := ComponentNode.ofItems?_listToJson t.roots
  simp [ComponentTree.toJson, ComponentTree.ofJson?, Json.fields?, Json.fieldsOfMembers?,
    Json.Field.required?, Json.text?, ComponentNode.ofChildren?, hroots]

end SceneCompiler
