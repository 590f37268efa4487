import SceneCompiler.Scene.Node
import SceneCompiler.Text.Hyphenate
import SceneCompiler.Token.Expression
/-!
# Names of tokens

A variable has a raw name, by which style values refer to it, and gets a canonical name, by which
the emitted code refers to it.
-/

namespace SceneCompiler

/-- The raw name of a variable: the name in its code syntax where that is a token expression, else
its display name. -/
def Variable.rawName (v : Variable) : String :=
  match v.codeSyntax.bind TokenExpression.parse? with
  | some expression => expression.name
  | none => v.name

/-- The words of a name in small letters joined by dashes; `token` if it has no words. -/
def normalizeName (raw : String) : String :=
  match hyphenate (fun c => c.isAlphanum || c == '_') raw.toList with
  | [] => "token"
  | name => String.ofList name

/-- The canonical name: the one that a hook chose, less its leading dashes, or else the normalized
raw name. -/
def canonicalName (raw : String) (chosen : Option String) : String :=
  match (chosen.bind TokenExpression.parse?).map fun e => e.name.toList.dropWhile (· = '-') with
  | some (c :: name) => String.ofList (c :: name)
  | _ => normalizeName raw

end SceneCompiler
