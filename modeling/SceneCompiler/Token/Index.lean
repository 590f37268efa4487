import SceneCompiler.Token.Name
import SceneCompiler.Token.Value
import SceneCompiler.Tree.Basic
/-!
# The token index

The index gives every variable that it knows a canonical name. Variables whose names collide share a
bucket, in the order in which they came, and the first of a bucket speaks for the name.
-/

namespace SceneCompiler

/-! ### Candidates -/

/-- A variable that is to get a canonical name. -/
structure TokenCandidate where
  id : VariableId
  rawName : String
  /-- The literal in the default mode, which hooks are told. -/
  value : Option String
deriving DecidableEq

def VariableTable.candidate (variableTable : VariableTable) (v : Variable) : TokenCandidate where
  id := v.id
  rawName := v.rawName
  value := some (variableTable.resolve v.id none)

namespace SceneGraph

/-- The known variables bound on the nodes of a tree, each once, in the order of the tree. -/
def tokenCandidates (g : SceneGraph) (t : VisibleTree) : List TokenCandidate :=
  let bound := t.order.flatMap fun id => ((g.find? id).map (·.boundVariables)).getD []
  (bound.eraseDups.filterMap fun id => g.variableTable[id]?).map
    (VariableTable.candidate g.variableTable)

/-- All variables of the document, in the order of their names. -/
def documentCandidates (g : SceneGraph) : List TokenCandidate :=
  g.variableTable.toList.map fun (_, v) => VariableTable.candidate g.variableTable v

end SceneGraph

/-! ### The index -/

/-- Canonical and raw names by variable, and the variables by canonical name. -/
structure TokenIndex where
  canonicalNames : Std.ExtTreeMap VariableId String := ∅
  buckets : Std.ExtTreeMap String (List VariableId) := ∅
  rawNames : Std.ExtTreeMap VariableId String := ∅

namespace TokenIndex

def knows (x : TokenIndex) (id : VariableId) : Bool :=
  x.canonicalNames.contains id

/-- Gives a candidate its canonical name, unless it has one. -/
def add (x : TokenIndex) (c : TokenCandidate) (chosen : Option String) : TokenIndex :=
  if x.knows c.id then x
  else
    let name := canonicalName c.rawName chosen
    { canonicalNames := x.canonicalNames.insert c.id name
      buckets := x.buckets.alter name fun bucket => some (bucket.getD [] ++ [c.id])
      rawNames := x.rawNames.insert c.id c.rawName }

/-- Adds candidates in order; the names that hooks chose are matched up by place. -/
def extend (x : TokenIndex) : List TokenCandidate → List (Option String) → TokenIndex
  | [], _ => x
  | c :: rest, chosen => (x.add c chosen.head?.join).extend rest chosen.tail

def build (candidates : List TokenCandidate) (chosen : List (Option String)) : TokenIndex :=
  ({} : TokenIndex).extend candidates chosen

/-- The candidates that have no name yet. -/
def missing (x : TokenIndex) (candidates : List TokenCandidate) : List TokenCandidate :=
  candidates.filter fun c => !x.knows c.id

def isEmpty (x : TokenIndex) : Bool :=
  x.canonicalNames.isEmpty

/-- The variable that speaks for a canonical name. -/
def speaker? (x : TokenIndex) (name : String) : Option VariableId :=
  x.buckets[name]?.bind (·.head?)

def resolveName (x : TokenIndex) (variableTable : VariableTable) (name : String)
    (mode : Option String) : String :=
  match x.speaker? name with
  | some id => variableTable.resolve id mode
  | none => unresolved

def valuesByMode (x : TokenIndex) (variableTable : VariableTable) (name : String) : TextMap :=
  match (x.speaker? name).bind fun id => variableTable[id]? with
  | some v => v.valuesByMode.map fun mode _ => variableTable.resolve v.id (some mode)
  | none => ∅

end TokenIndex

end SceneCompiler
