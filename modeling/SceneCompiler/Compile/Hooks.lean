import SceneCompiler.Markup.Render
import SceneCompiler.Markup.Stylesheet
import SceneCompiler.Options
import SceneCompiler.Plugin.Channel
import SceneCompiler.Style.Pixels
import SceneCompiler.Token.Index
/-!
# Hooks in a compilation

Each hook may replace some texts: the names of tokens, pixel literals, the bodies of rules, and the
component. Without a plugin, without the hook, and wherever a call fails, the default stays.
-/

namespace SceneCompiler

/-! ### Payloads -/

/-- What the hook for variables is told. The code is a token expression. -/
def TokenCandidate.payload (c : TokenCandidate) (options : CompileOptions) : Json :=
  .obj [("code", .str ("var(--" ++ normalizeName c.rawName ++ ")")),
    ("name", .str c.rawName),
    ("options", .obj [("scale", .ofSingle options.scale), ("unit", options.unit.toJson)]),
    ("value", match c.value with
      | some value => .str value
      | none => .null)]

def pixelPayload (literal : String) : Json :=
  .obj [("value", .str literal)]

def rulePayload (d : Declarations) : Json :=
  .obj [("code", .str (String.ofList (ruleBody d))), ("style", .ofTextMap d)]

def ComponentTree.payload (t : ComponentTree) : Json :=
  .obj [("component", t.toJson)]

/-! ### Answers -/

/-- The code for a component when the hook for components gave an answer: the answer itself if it is
a text, the markup of the tree that it describes, or the markup of the component. -/
def ComponentTree.code (t : ComponentTree) : Option Json → String
  | some (.str code) => code
  | some answer => ((ComponentTree.ofJson? answer).getD t).render
  | none => t.render

variable {m : Type → Type} [Monad m]

/-- What a hook answers to each payload, where it does; the plugin goes on with other numbers. -/
def hookAnswers (plugin : Option (Channel m)) (hook : HookKind) (payloads : List Json) :
    m (List (Option Json) × Option (Channel m)) :=
  match plugin.filter (·.hasHook hook) with
  | none => return (payloads.map fun _ => none, plugin)
  | some channel => do
    let (results, channel) ← channel.callBatch hook payloads
    return (results.map Except.toOption, some channel)

/-- The texts that a hook answers to each payload, where it does. -/
def hookTexts (plugin : Option (Channel m)) (hook : HookKind) (payloads : List Json) :
    m (List (Option String) × Option (Channel m)) := do
  let (answers, plugin) ← hookAnswers plugin hook payloads
  return (answers.map fun answer => answer.bind Json.text?, plugin)

/-! ### Stages -/

/-- Replaces pixel literals by what the hook for them answers. -/
def transformPixels (plugin : Option (Channel m)) (styles : StyleMap) :
    m (StyleMap × Option (Channel m)) := do
  let literals := styles.pixelLiterals
  let (texts, plugin) ← hookTexts plugin .transformPx (literals.map pixelPayload)
  let replacements : TextMap := (literals.zip texts).foldl (fun table (literal, text) =>
    match text with
    | some text => table.insert literal text
    | none => table) ∅
  return (styles.replacePixels replacements, plugin)

/-- The bodies of the rules of some nodes, which the hook for rules may replace. -/
def ruleBodies (plugin : Option (Channel m)) (order : List NodeId) (styles : StyleMap) :
    m (Std.ExtTreeMap NodeId String × Option (Channel m)) := do
  let declared := order.map fun id => (id, styles.getD id ∅)
  let (texts, plugin) ← hookTexts plugin .transform (declared.map fun (_, d) => rulePayload d)
  let bodies := (declared.zip texts).foldl (fun bodies ((id, d), text) =>
    bodies.insert id (text.getD (String.ofList (ruleBody d)))) ∅
  return (bodies, plugin)

/-- The code of a component, which the hook for components may replace. -/
def componentCode (plugin : Option (Channel m)) (t : ComponentTree) :
    m (String × Option (Channel m)) := do
  let (answers, plugin) ← hookAnswers plugin .transformComponent [t.payload]
  return (t.code answers.head?.join, plugin)

end SceneCompiler
