import SceneCompiler.RichText.Run
/-!
# Blocks of text

Styled segments become lines of runs, and lines become blocks: paragraphs and lists. Lines end at
CR, LF, CRLF, U+2028 and U+2029; a break at the very end opens no further line.
-/

namespace SceneCompiler

/-! ### Line breaks -/

def isLineBreak (c : Char) : Bool :=
  c == '\r' || c == '\n' || c == '\u2028' || c == '\u2029'

/-- The pieces of a text between line breaks; a CR with an LF right after it is one break. -/
def splitBreaks : List Char → List (List Char)
  | [] => [[]]
  | c :: s =>
    if isLineBreak c then
      if c = '\r' ∧ s.head? = some '\n' then
        -- The LF ends the piece before it, so that piece is dropped.
        [] :: (splitBreaks s).tail
      else [] :: splitBreaks s
    else
      match splitBreaks s with
      | piece :: rest => (c :: piece) :: rest
      | [] => [[c]]

/-! ### Attributes of segments -/

def codeFamilies : List String :=
  ["mono", "code", "consolas", "courier", "menlo"]

def isCodeFamily (family : String) : Bool :=
  codeFamilies.any fun word => containsWord word.toList (family.toList.map Char.toLower)

namespace StyledSegment

def marks (s : StyledSegment) : TextMarks where
  bold := 600 ≤ s.fontWeight
  italic := s.isItalic
  underline := s.textDecoration = .underline
  strike := s.textDecoration = .strikethrough
  code := isCodeFamily s.fontFamily
  link := s.hyperlink.isSome

/-- The text transform for a change of letter case. -/
def transform? : TextCase → Option String
  | .asTyped => none
  | .upper => some "uppercase"
  | .lower => some "lowercase"
  | .title => some "capitalize"

def pixels (x : Float32) : String :=
  formatNumber x ++ "px"

def attributes (s : StyledSegment) : TextMap :=
  [("color", s.fill.map Color.hex),
    ("font-family", some s.fontFamily),
    ("font-size", some (pixels s.fontSize)),
    ("letter-spacing", s.letterSpacing.map pixels),
    ("line-height", s.lineHeight.map pixels),
    ("text-align", s.textAlign.map lowerAscii),
    ("text-transform", s.textCase.bind transform?)].foldl
      (fun attributes (name, value) => match value with
        | some value => attributes.insert name value
        | none => attributes) ∅

def run (s : StyledSegment) (text : List Char) : TextRun where
  text := String.ofList text
  marks := s.marks
  attributes := s.attributes
  link := s.hyperlink

end StyledSegment

/-! ### Lines -/

/-- A line of text with the list data of the segment that opened it. -/
structure TextLine where
  runs : List TextRun := []
  listType : ListType := .none
  indentation : Nat := 0
  listSpacing : Float32 := 0
  paragraphSpacing : Float32 := 0

def TextLine.openedBy (s : StyledSegment) : TextLine where
  listType := s.listType
  indentation := s.indentation
  listSpacing := s.listSpacing
  paragraphSpacing := s.paragraphSpacing

/-- Lines that have ended, and the line that goes on. -/
structure LineBuilder where
  ended : List TextLine := []
  current : Option TextLine := none

namespace LineBuilder

/-- Ends the current line; an empty one is ended if none goes on. -/
def breakLine (b : LineBuilder) (s : StyledSegment) : LineBuilder where
  ended := b.ended ++ [b.current.getD (.openedBy s)]
  current := none

/-- Appends a piece of a segment to the current line. Empty pieces are left out, unless the whole
segment is empty: such a segment still keeps its neighbours apart. -/
def addPiece (s : StyledSegment) (b : LineBuilder) (piece : List Char) : LineBuilder :=
  if piece.isEmpty && !s.characters.isEmpty then b
  else
    let line := b.current.getD (.openedBy s)
    { b with current := some { line with runs := line.runs ++ [s.run piece] } }

def addSegment (b : LineBuilder) (s : StyledSegment) : LineBuilder :=
  match splitBreaks s.characters.toList with
  | [] => b
  | first :: rest =>
    rest.foldl (fun b piece => (b.breakLine s).addPiece s piece) (b.addPiece s first)

def lines (b : LineBuilder) : List TextLine :=
  b.ended ++ b.current.toList

end LineBuilder

def splitLines (segments : List StyledSegment) : List TextLine :=
  (segments.foldl LineBuilder.addSegment {}).lines

/-! ### Blocks -/

/-- Lines of the same kind: a paragraph, or a list. -/
structure TextBlock where
  kind : ListType
  lines : List TextLine

/-- Puts neighbouring lines of the same kind into one block. -/
def groupBlocks : List TextLine → List TextBlock
  | [] => []
  | line :: rest =>
    match groupBlocks rest with
    | [] => [⟨line.listType, [line]⟩]
    | block :: blocks =>
      if block.kind = line.listType then { block with lines := line :: block.lines } :: blocks
      else ⟨line.listType, [line]⟩ :: block :: blocks

/-- The blocks of a text, with the runs of each line merged. -/
def TextContent.blocks (content : TextContent) : List TextBlock :=
  groupBlocks ((splitLines content.segments).map fun line =>
    { line with runs := TextRun.merge (TextRun.applySticky line.runs) })

/-! ### Changing runs -/

def TextLine.mapRuns {m : Type → Type} [Monad m] (f : TextRun → m TextRun) (line : TextLine) :
    m TextLine :=
  return { line with runs := ← line.runs.mapM f }

def TextBlock.mapRuns {m : Type → Type} [Monad m] (f : TextRun → m TextRun) (b : TextBlock) :
    m TextBlock :=
  return { b with lines := ← b.lines.mapM (TextLine.mapRuns f) }

end SceneCompiler
