import SceneCompiler.Style.Basic
import SceneCompiler.Text.Class
import SceneCompiler.Tree.Basic
/-!
# Style sheets

One rule for each node that has declarations, in the order of the tree, and a rule for the tokens.
-/

namespace SceneCompiler

/-- The declarations of a rule, a line each. -/
def ruleBody (d : Declarations) : List Char :=
  d.toList.flatMap fun (property, value) =>
    "  ".toList ++ property.toList ++ ": ".toList ++ value.toList ++ ";\n".toList

/-- A rule; its body ends with a line break. -/
def styleRule (selector : List Char) (body : List Char) : List Char :=
  selector ++ " \x7b\n".toList ++ body ++
    (if body.getLast? = some '\n' then [] else ['\n']) ++ "\x7d\n".toList

/-- The rules of the nodes whose body is not blank, with an empty line between them. -/
def stylesheet (t : VisibleTree) (classes bodies : Std.ExtTreeMap NodeId String) : String :=
  let rules := t.order.filterMap fun id =>
    match classes[id]?, bodies[id]? with
    | some chosen, some body =>
      if body.toList.all isWhite then none else some (styleRule ('.' :: chosen.toList) body.toList)
    | _, _ => none
  String.ofList (List.intercalate ['\n'] rules)

/-- The rule that defines some tokens; nothing if there are none. -/
def tokenBlock (tokens : TextMap) : String :=
  if tokens.isEmpty then ""
  else String.ofList (":root \x7b\n".toList ++ (tokens.toList.flatMap fun (name, value) =>
    "  --".toList ++ name.toList ++ ": ".toList ++ value.toList ++ ";\n".toList) ++
      "\x7d\n".toList)

/-- The longest start of a text within a count of bytes. -/
def takeBytes : Nat → List Char → List Char
  | _, [] => []
  | room, c :: s => if c.utf8Size ≤ room then c :: takeBytes (room - c.utf8Size) s else []

/-- Cuts a text to at most `limit` bytes between two characters; also whether it was cut. -/
def truncateCode (code : String) (limit : Nat) : String × Bool :=
  if code.utf8ByteSize ≤ limit then (code, false)
  else (String.ofList (takeBytes limit code.toList), true)

end SceneCompiler
