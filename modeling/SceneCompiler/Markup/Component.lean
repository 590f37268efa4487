import SceneCompiler.Json.Decode
/-!
# Component trees

Markup before it is written: texts and elements. Component hooks see and may replace the whole tree,
so it can be read from JSON and written to it.
-/

namespace SceneCompiler

/-- A text, or an element. Raw markup of an element stands in the place of its children. -/
inductive ComponentNode where
  | text (s : String)
  | element (tag : String) (attributes : TextMap) (children : List ComponentNode)
      (raw : Option String)

/-- The markup of a component. -/
structure ComponentTree where
  name : String
  roots : List ComponentNode

namespace ComponentNode

/-! ### JSON -/

mutual

def toJson : ComponentNode → Json
  | .text s => .str s
  | .element tag attributes children raw =>
    .obj ([("attrs", .ofTextMap attributes), ("children", .arr (listToJson children))] ++
      (match raw with
        | some markup => [("raw", .str markup)]
        | none => []) ++ [("tag", .str tag)])

def listToJson : List ComponentNode → List Json
  | [] => []
  | n :: rest => toJson n :: listToJson rest

end

/-- The reader of an element's fields other than its children. -/
def frame? (tag attributes raw : Json.Field) : Option (String × TextMap × Option String) := do
  return (← tag.required? Json.text?, ← attributes.withDefault? ∅ Json.textMap?,
    ← raw.optional? Json.text?)

mutual

def ofJson? : Json → Option ComponentNode
  | .str s => some (.text s)
  | .obj members => do
    let children ← childrenOfMembers? members
    let [tag, attributes, raw] ← Json.fieldsOfMembers? ["tag", "attrs", "raw"] members | none
    let (tag, attributes, raw) ← frame? tag attributes raw
    return .element tag attributes (children.getD []) raw
  | .arr items => do
    let children ← childrenOfItems? items
    let [tag, attributes, _, raw] ← Json.fieldsOfItems? ["tag", "attrs", "children", "raw"] items
      | none
    let (tag, attributes, raw) ← frame? tag attributes raw
    return .element tag attributes children raw
  | _ => none

/-- Reads the children among the members of an element: the member may be missing but not be
repeated. -/
def childrenOfMembers? : List (String × Json) → Option (Option (List ComponentNode))
  | [] => some none
  | (key, j) :: rest => do
    let later ← childrenOfMembers? rest
    if key = "children" then
      let children ← ofChildren? j
      if later.isSome then none else some (some children)
    else some later

/-- Reads the children of an element given as an array: they are its third item. -/
def childrenOfItems? : List Json → Option (List ComponentNode)
  | _ :: _ :: j :: _ => ofChildren? j
  | _ => some []

def ofChildren? : Json → Option (List ComponentNode)
  | .arr items => ofItems? items
  | _ => none

def ofItems? : List Json → Option (List ComponentNode)
  | [] => some []
  | j :: rest => do return (← ofJson? j) :: (← ofItems? rest)

end

end ComponentNode

namespace ComponentTree

def toJson (t : ComponentTree) : Json :=
  .obj [("name", .str t.name), ("roots", .arr (ComponentNode.listToJson t.roots))]

def ofJson? (j : Json) : Option ComponentTree := do
  let [name, roots] ← j.fields? ["name", "roots"] | none
  return {
    name := ← name.required? Json.text?
    roots := ← roots.required? ComponentNode.ofChildren? }

end ComponentTree

end SceneCompiler
