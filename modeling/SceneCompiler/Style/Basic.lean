import SceneCompiler.Json.Decode
import SceneCompiler.Scene.Id
/-!
# Style maps

The declarations of each node: property by property, node by node.
-/

namespace SceneCompiler

/-- The declarations of one node, in the order of the properties. -/
abbrev Declarations := TextMap

/-- Declarations by node. -/
abbrev StyleMap := Std.ExtTreeMap NodeId Declarations

namespace StyleMap

def value? (styles : StyleMap) (id : NodeId) (property : String) : Option String :=
  styles[id]?.bind fun d => d[property]?

def setValue (styles : StyleMap) (id : NodeId) (property value : String) : StyleMap :=
  styles.insert id ((styles.getD id ∅).insert property value)

/-- Sets a property of a node unless it has a value. -/
def setDefault (styles : StyleMap) (id : NodeId) (property value : String) : StyleMap :=
  styles.insert id ((styles.getD id ∅).insertIfNew property value)

def mapValues (f : String → String) (styles : StyleMap) : StyleMap :=
  styles.map fun _ d => d.map fun _ v => f v

/-- Every value, node by node and property by property. -/
def values (styles : StyleMap) : List String :=
  styles.toList.flatMap fun (_, d) => d.toList.map (·.2)

/-! ### JSON -/

def ofJson? (j : Json) : Option StyleMap :=
  (Json.mapOf? Json.textMap? j).map fun m =>
    m.foldl (fun styles id d => styles.insert ⟨id⟩ d) ∅

def toJson (styles : StyleMap) : Json :=
  .obj (styles.toList.map fun (id, d) => (id.text, .ofTextMap d))

end StyleMap

end SceneCompiler
