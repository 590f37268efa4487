import SceneCompiler.Markup.Component
/-!
# Writing markup

A component tree is written with two spaces of indentation per level. An element whose children are
all inline is written on one line; an element with raw markup has the lines of that markup indented
below it; void elements have no content and no closing tag.
-/

namespace SceneCompiler

/-! ### Escaping -/

/-- How one character is written inside texts and attribute values. -/
def escapeChar : Char → List Char
  | '&' => "&amp;".toList
  | '<' => "&lt;".toList
  | '>' => "&gt;".toList
  | '"' => "&quot;".toList
  | c => [c]

/-- How a text is written inside texts and attribute values. -/
def escapeMarkup (s : List Char) : List Char :=
  s.flatMap escapeChar

/-! ### Lines -/

/-- The lines of a text: what LF separates, without a CR at the end of a line that an LF ended. A
break at the very end opens no line. -/
def textLines : List Char → List (List Char)
  | [] => []
  | c :: s =>
    if c = '\n' then [] :: textLines s
    else if c = '\r' ∧ s.head? = some '\n' then textLines s
    else
      match textLines s with
      | line :: rest => (c :: line) :: rest
      | [] => [[c]]

def indentation (depth : Nat) : List Char :=
  List.replicate (2 * depth) ' '

namespace ComponentNode

/-! ### Tags -/

/-- Elements that are written in the line of a text. -/
def inlineTags : List String :=
  ["a", "strong", "em", "u", "s", "code", "span", "br"]

def voidTags : List String :=
  ["img", "br"]

/-- The node can be written in the line of a text. -/
def isInline : ComponentNode → Bool
  | text _ => true
  | element tag _ _ raw => inlineTags.contains tag && raw.isNone

def openTag (tag : String) (attributes : TextMap) : List Char :=
  '<' :: (tag.toList ++ (attributes.toList.flatMap fun (name, value) =>
    ' ' :: (name.toList ++ '=' :: '"' :: (escapeMarkup value.toList ++ ['"']))) ++ ['>'])

def closeTag (tag : String) : List Char :=
  '<' :: '/' :: (tag.toList ++ ['>'])

/-! ### Inline -/

mutual

def renderInline : ComponentNode → List Char
  | text s => escapeMarkup s.toList
  | element tag attributes children _ =>
    openTag tag attributes ++
      if voidTags.contains tag then [] else renderInlines children ++ closeTag tag

/-- Nodes in the line of a text, without anything between them. -/
def renderInlines : List ComponentNode → List Char
  | [] => []
  | n :: rest => renderInline n ++ renderInlines rest

end

/-! ### Blocks -/

def renderRaw (depth : Nat) (markup : String) : List Char :=
  '\n' :: (textLines markup.toList).flatMap fun line => indentation (depth + 1) ++ line ++ ['\n']

mutual

/-- A node at a level, without indentation in front of it and without a line break after it. -/
def render (depth : Nat) : ComponentNode → List Char
  | text s => escapeMarkup s.toList
  | element tag attributes children raw =>
    openTag tag attributes ++
      if voidTags.contains tag then []
      else
        match raw with
        | some markup => renderRaw depth markup ++ indentation depth ++ closeTag tag
        | none =>
          if children.all isInline then renderInlines children ++ closeTag tag
          else '\n' :: (renderLines (depth + 1) children ++ indentation depth ++ closeTag tag)

def renderLines (depth : Nat) : List ComponentNode → List Char
  | [] => []
  | n :: rest => indentation depth ++ render depth n ++ '\n' :: renderLines depth rest

end

end ComponentNode

def ComponentTree.render (t : ComponentTree) : String :=
  String.ofList (ComponentNode.renderLines 0 t.roots)

end SceneCompiler
