import SceneCompiler.Compile.Pipeline
import SceneCompiler.Operation.Selection
/-!
# Code and tokens

Code for what a selector means, and the values of tokens by name. Names have the meaning that the
latest compilation gave them; variables that it did not see go by their normalized names.
-/

namespace SceneCompiler

/-- The value of a token, in the default mode or in each mode. -/
inductive TokenDefinition where
  | value (literal : String)
  | byMode (literals : TextMap)

def TokenDefinition.toJson : TokenDefinition → Json
  | value literal => .str literal
  | byMode literals => .ofTextMap literals

/-- The name that a request for a token means: `var(--x)`, `--x` and `x` are one. -/
def requestedTokenName (requested : String) : String :=
  match TokenExpression.parse? requested with
  | some expression => String.ofList (expression.name.toList.dropWhile (· = '-'))
  | none => trimText requested

/-- The value of a token in each mode; an unknown one has one value. -/
def TokenIndex.allModes (x : TokenIndex) (variableTable : VariableTable) (name : String) :
    TokenDefinition :=
  let literals := x.valuesByMode variableTable name
  if literals.isEmpty then .value unresolved else .byMode literals

/-- The value of a token, in the default mode or in each mode. -/
def TokenIndex.definition (x : TokenIndex) (variableTable : VariableTable) (allModes : Bool)
    (name : String) : TokenDefinition :=
  if allModes then x.allModes variableTable name else .value (x.resolveName variableTable name none)

namespace Session

variable {m : Type → Type} [Monad m]

/-- The code for what a selector means. -/
def getCode (s : Session m) (request : CodeRequest) : SessionM m CompileResult := do
  let (g, roots) ← s.currentSelection request.selector
  s.compile g { roots, options := request.options, pluginCode := request.pluginCode }

/-- The values of some tokens, by name. -/
def getTokenDefs (s : Session m) (names : List String) (allModes : Bool) :
    SessionM m (Std.ExtTreeMap String TokenDefinition) := do
  let g ← s.currentScene
  let latest := ((← get).latestTokenIndex?).getD {}
  let index := latest.extend g.documentCandidates []
  return (names.map requestedTokenName).foldl
    (fun table name => table.insert name (index.definition g.variableTable allModes name)) ∅

end Session

end SceneCompiler
