import SceneCompiler.Json.Decode
import SceneCompiler.RichText.Block
import SceneCompiler.Scene.Encode
/-!
# Texts in JSON

The JSON forms of runs, lines and blocks. Runs can be read too.
-/

namespace SceneCompiler

def TextMarks.toJson (m : TextMarks) : Json :=
  .obj [("bold", .bool m.bold), ("code", .bool m.code), ("italic", .bool m.italic),
    ("link", .bool m.link), ("strike", .bool m.strike), ("underline", .bool m.underline)]

def TextRun.toJson (r : TextRun) : Json :=
  .ofMembers [("attrs", some (.ofTextMap r.attributes)), ("link", r.link.map .str),
    ("marks", some r.marks.toJson), ("text", some (.str r.text))]

/-- Reads marks; those that are not mentioned are not set. -/
def TextMarks.ofJson? (j : Json) : Option TextMarks := do
  let [bold, italic, underline, strike, code, link] ←
    j.fields? ["bold", "italic", "underline", "strike", "code", "link"] | none
  return {
    bold := ← bold.withDefault? false Json.flag?
    italic := ← italic.withDefault? false Json.flag?
    underline := ← underline.withDefault? false Json.flag?
    strike := ← strike.withDefault? false Json.flag?
    code := ← code.withDefault? false Json.flag?
    link := ← link.withDefault? false Json.flag? }

def TextRun.ofJson? (j : Json) : Option TextRun := do
  let [text, marks, attributes, link] ← j.fields? ["text", "marks", "attrs", "link"] | none
  return {
    text := ← text.required? Json.text?
    marks := ← marks.withDefault? {} TextMarks.ofJson?
    attributes := ← attributes.withDefault? ∅ Json.textMap?
    link := ← link.optional? Json.text? }

def TextLine.toJson (l : TextLine) : Json :=
  .obj [("attrs", .obj [("indentation", .ofNat l.indentation),
      ("list_spacing", .ofSingle l.listSpacing), ("list_type", .str l.listType.name),
      ("paragraph_spacing", .ofSingle l.paragraphSpacing)]),
    ("runs", .ofList TextRun.toJson l.runs)]

def TextBlock.kindName : ListType → String
  | .none => "paragraph"
  | .ordered => "ordered-list"
  | .unordered => "unordered-list"

def TextBlock.toJson (b : TextBlock) : Json :=
  .obj [("kind", .str (kindName b.kind)), ("lines", .ofList TextLine.toJson b.lines)]

end SceneCompiler
