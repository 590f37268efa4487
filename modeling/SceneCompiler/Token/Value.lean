import SceneCompiler.Scene.Graph
/-!
# Values of tokens

A variable has a value in each mode, a literal or another variable. Chains of aliases are followed
to a literal, but not further than `aliasLimit` steps.
-/

namespace SceneCompiler

/-- The variables of a scene by name. -/
abbrev VariableTable := Std.ExtTreeMap VariableId Variable

/-- How many aliases in a row are followed. -/
def aliasLimit : Nat := 20

/-- The text for a value that cannot be found. -/
def unresolved : String := "unknown"

/-- The text of a literal; an alias has none of its own. -/
def VariableValue.format : VariableValue → String
  | .color c => c.hex
  | .float x => formatNumber x
  | .string s => s
  | .boolean b => if b then "true" else "false"
  | .alias _ => unresolved

/-- The value in the requested mode, else in the default mode, else in the first mode. -/
def Variable.valueIn? (v : Variable) (mode : Option String) : Option VariableValue :=
  (mode.bind fun m => v.valuesByMode[m]?) <|> v.valuesByMode[v.defaultMode]? <|>
    (v.valuesByMode.toList.head?.map (·.2))

namespace VariableTable

/-- The literal at the end of a chain of at most `steps` aliases. The requested mode counts for the
first variable alone, since aliases may lead to other collections. -/
def follow (variableTable : VariableTable) : Nat → VariableId → Option String → String
  | steps, id, mode =>
    match variableTable[id]?.bind (·.valueIn? mode) with
    | some (.alias next) =>
      match steps with
      | 0 => unresolved
      | steps + 1 => follow variableTable steps next none
    | some literal => literal.format
    | none => unresolved

/-- The literal that a variable stands for in a mode. -/
def resolve (variableTable : VariableTable) (id : VariableId) (mode : Option String) : String :=
  variableTable.follow aliasLimit id mode

end VariableTable

end SceneCompiler
