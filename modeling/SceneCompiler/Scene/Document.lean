import SceneCompiler.Json.Reader
import SceneCompiler.Scene.Decode
import SceneCompiler.Scene.Graph
/-!
# Scene documents

A scene document lists the top-level nodes with their children nested in them, the variables, and
the selection. Loading it fills a graph in document order.
-/

namespace SceneCompiler

/-- A node with its children, as in a document. -/
inductive NodeDocument where
  | node (record : SceneNode) (children : List NodeDocument)

/-- A whole document. -/
structure SceneDocument where
  roots : List NodeDocument
  declared : List Variable := []
  selection : List NodeId := []

/-! ### Reading -/

namespace NodeDocument

mutual

/-- Reads a node with its children. The node is an object that holds the fields of the record beside
its children; the fields are set aside until all members are known. -/
def ofJson? : Json → Option NodeDocument
  | .obj members => do
    let children ← childrenOfMembers? members
    return .node (← SceneNode.ofJson? .deferred (.obj members)) (children.getD [])
  | _ => none

/-- Reads the children among the members of a node: the member may be missing but not be repeated.
-/
def childrenOfMembers? : List (String × Json) → Option (Option (List NodeDocument))
  | [] => some none
  | (key, j) :: rest => do
    let later ← childrenOfMembers? rest
    if key = "children" then
      let children ← ofChildren? j
      if later.isSome then none else some (some children)
    else some later

def ofChildren? : Json → Option (List NodeDocument)
  | .arr items => ofItems? items
  | _ => none

def ofItems? : List Json → Option (List NodeDocument)
  | [] => some []
  | j :: rest => do return (← ofJson? j) :: (← ofItems? rest)

end

end NodeDocument

def SceneDocument.ofJson? (j : Json) : Option SceneDocument := do
  let [roots, declared, selection] ← j.fields? ["roots", "variables", "selection"] | none
  return {
    roots := ← roots.required? NodeDocument.ofChildren?
    declared := ← declared.withDefault? [] (Json.listOf? Variable.ofJson?)
    selection := ← selection.withDefault? [] (Json.listOf? NodeId.ofJson?) }

/-- What of a document is read in a text: all of its nodes, and of variables what they declare. -/
def SceneDocument.shape : Json.Shape :=
  .record [("roots", .whole), ("variables", .items Variable.shape), ("selection", .whole)]

/-! ### Loading -/

namespace SceneGraph

mutual

/-- Adds a node of a document with everything below it, at top level or under a filled slot. -/
def insertDocument (g : SceneGraph) (parent : Option SlotIndex) : NodeDocument → SceneGraph
  | .node record children =>
    let filled := match parent with
      | some p => g.addNode p record
      | none => g.addRoot record
    filled.insertDocuments (some g.nextIndex) children

def insertDocuments (g : SceneGraph) (parent : Option SlotIndex) : List NodeDocument → SceneGraph
  | [] => g
  | d :: rest => (g.insertDocument parent d).insertDocuments parent rest

end

def ofDocument (d : SceneDocument) : SceneGraph :=
  (d.declared.foldl defineVariable (insertDocuments {} none d.roots)).select d.selection

def ofJson? (j : Json) : Option SceneGraph :=
  (SceneDocument.ofJson? j).map ofDocument

def ofText? (text : String) : Option SceneGraph :=
  (Json.readShape? SceneDocument.shape text).bind ofJson?

end SceneGraph

end SceneCompiler
