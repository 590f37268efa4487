import SceneCompiler.Compile.Hooks
import SceneCompiler.Compile.Pictures
import SceneCompiler.Compile.Request
import SceneCompiler.Markup.ClassName
import SceneCompiler.Style.Sanitize
import SceneCompiler.Token.Rewrite
import SceneCompiler.Tree.Build
/-!
# Compilation

From a scene to code. The visible tree of the roots gets its styles, in which tokens are renamed,
layout is corrected and pixel literals are replaced; pictures are exported, texts are merged, and
the style sheet and the component are written. Pictures and calls of hooks that fail leave their
defaults and never make a compilation fail.
-/

namespace SceneCompiler

/-! ### Warnings -/

/-- The nodes of a tree whose layout is inferred or unknown. -/
def VisibleTree.uncertainLayouts (t : VisibleTree) : List (NodeId × String × String) :=
  (t.order.filterMap t.find?).filterMap fun n =>
    n.hints[layoutHint]?.map fun layout => (n.id, n.name, layout)

def VisibleTree.warnings (t : VisibleTree) : List Warning :=
  (if t.uncertainLayouts.isEmpty then [] else [.uncertainLayout t.uncertainLayouts]) ++
    (if t.isCapped then [.depthCap t.depthLimit t.cappedIds.length] else [])

/-! ### Blocks -/

/-- Cuts a block to a count of bytes, with a warning if that took something away. -/
def CodeBlock.cut (limit : Nat) (b : CodeBlock) : CodeBlock × Option Warning :=
  let (code, wasCut) := truncateCode b.code limit
  ({ b with code }, if wasCut then some (.truncated b.name limit) else none)

/-- The rule for the tokens, and the style sheet. -/
def styleCode (tokens sheet : String) : String :=
  tokens ++ (if tokens.isEmpty || sheet.isEmpty then "" else "\n") ++ sheet

def codeBlocks (options : CompileOptions) (title markup styles : String) : List CodeBlock :=
  [{ name := "component", title, language := options.language, code := markup },
    { name := "styles", title := "Styles", language := "css", code := styles }]

/-- The values of the tokens that styles refer to. -/
def tokenValues (index : TokenIndex) (variableTable : VariableTable) (styles : StyleMap) :
    TextMap :=
  (StyleMap.referencedTokens styles index).foldl
    (fun table name => table.insert name (index.resolveName variableTable name none)) ∅

namespace Session

variable {m : Type → Type} [Monad m]

/-! ### Tokens -/

/-- The token index for a scale and a plugin, extended by the candidates that it lacks. Those get
names from the hook for variables. -/
def tokenIndex (plugin : Option (Channel m)) (candidates : List TokenCandidate)
    (options : CompileOptions) : CacheM m (TokenIndex × Option (Channel m)) := do
  let key := CacheKey.of options.scale (plugin.map (·.fingerprint))
  let cached := (← get).tokenIndexes[key]?
  let index := cached.getD {}
  let missing := index.missing candidates
  -- A complete index is not stored again, so it does not become the last one.
  if cached.isSome && missing.isEmpty then return (index, plugin)
  let payloads := missing.map (·.payload options)
  let (names, plugin) ← (hookTexts plugin .transformVariable payloads : m _)
  let index := index.extend missing names
  modify (·.storeTokenIndex key index)
  return (index, plugin)

/-! ### The stages in order -/

/-- The plugin that a request asks for. Blank code asks for none. -/
def requestedPlugin (s : Session m) (request : CompileRequest) : SessionM m (Option (Channel m)) :=
  match request.pluginCode with
  | some code =>
    if code.toList.all isWhite then return none
    else some <$> s.plugin code request.options.scale
  | none => return none

/-- Puts a plugin back with the numbers of its next calls. -/
def keepPlugin (options : CompileOptions) (plugin : Option (Channel m)) : CacheM m Unit :=
  match plugin with
  | some channel =>
    let key := CacheKey.of options.scale (some channel.fingerprint)
    modify fun c => { c with plugins := c.plugins.insert key channel }
  | none => return

/-- Compiles a tree. -/
def compileTree (s : Session m) (g : SceneGraph) (tree : VisibleTree)
    (plugin : Option (Channel m)) (options : CompileOptions) : CacheM m CompileResult := do
  let styles ← s.collectStyles g tree
  let (index, plugin) ← tokenIndex plugin (g.tokenCandidates tree) options
  let styles := StyleMap.sanitize tree (StyleMap.rewriteTokens styles index.rewriteTable)
  -- From here on every stage works on values that are renamed and corrected.
  let (styles, plugin) ← (transformPixels plugin styles : m _)
  let plan := g.planAssets tree
  let pictures ← s.exportPictures g tree plan options
  let styles := pictures.setBackgrounds tree styles
  let texts ← s.collectTexts g tree
  let classes := tree.classNames
  let (bodies, plugin) ← (ruleBodies plugin tree.order styles : m _)
  -- Hooks and pictures may have put in references, so tokens are those of the final styles.
  let tokens := tokenValues index g.variableTable styles
  let css := styleCode (if options.emitTokens then tokenBlock tokens else "")
    (stylesheet tree classes bodies)
  let component :=
    (MarkupSource.mk tree classes plan pictures.references texts).component
  let (markup, plugin) ← (componentCode plugin component : m _)
  keepPlugin options plugin
  let blocks := (codeBlocks options component.name markup css).map (·.cut options.maxCodeBytes)
  return {
    blocks := blocks.map (·.1)
    warnings := (blocks.filterMap (·.2)) ++ tree.warnings
    assets := pictures.descriptors
    tokens }

/-- Compiles the roots of a request in a scene. -/
def compile (s : Session m) (g : SceneGraph) (request : CompileRequest) :
    SessionM m CompileResult := do
  let tree := g.visibleTree request.roots request.options.depthPolicy
  if tree.rootIds.isEmpty then throw .noVisibleRoot
  let plugin ← s.requestedPlugin request
  s.compileTree g tree plugin request.options

end Session

end SceneCompiler
