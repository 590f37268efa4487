import SceneCompiler.Options
/-!
# The root tag of vector markup

Finding the opening tag `<svg ...>` of exported markup, and writing it anew with the size in a given
unit.
-/

namespace SceneCompiler

/-- An attribute of a tag; without a value in the markup the value is empty. -/
structure SvgAttribute where
  name : String
  value : String
deriving DecidableEq, Repr

/-- An opening tag. -/
structure SvgTag where
  attributes : List SvgAttribute
  selfClosing : Bool
deriving DecidableEq, Repr

/-- The root tag of some markup, with what comes before and after it. -/
structure SvgRoot where
  before : List Char
  tag : SvgTag
  after : List Char

namespace SvgTag

/-! ### Reading -/

def isNameChar (c : Char) : Bool :=
  c.isAlphanum || c == '-' || c == '_' || c == ':'

/-- Splits a quoted text off: the text between the quote and its next copy. Any start but a double
quote is taken for a single one. -/
def takeQuoted? : List Char → Option (List Char × List Char)
  | [] => none
  | c :: s =>
    if c = '"' ∨ c = '\'' then
      match s.dropWhile (· ≠ c) with
      | _ :: rest => some (s.takeWhile (· ≠ c), rest)
      | [] => none
    else none

def takeValue? (s : List Char) : Option (List Char × List Char) :=
  match s.dropWhile isBlank with
  | '=' :: r => takeQuoted? (r.dropWhile isBlank)
  | r => some ([], r)

def takeAttribute? (s : List Char) : Option (SvgAttribute × List Char) := do
  let name := s.takeWhile isNameChar
  if name = [] then none
  let (value, rest) ← takeValue? (s.dropWhile isNameChar)
  return (⟨String.ofList name, String.ofList value⟩, rest)

/-- Reads the attributes up to the end of the tag; `fuel` bounds their count. -/
def readAttributes? : Nat → List Char → Option (SvgTag × List Char)
  | 0, _ => none
  | fuel + 1, s =>
    match s.dropWhile isWhite with
    | '/' :: '>' :: rest => some (⟨[], true⟩, rest)
    | '>' :: rest => some (⟨[], false⟩, rest)
    | r => do
      let (first, r) ← takeAttribute? r
      let (tag, r) ← readAttributes? fuel r
      return ({ tag with attributes := first :: tag.attributes }, r)

def read? (s : List Char) : Option (SvgTag × List Char) :=
  readAttributes? (s.length + 1) s

def endsName : List Char → Bool
  | '>' :: _ => true
  | '/' :: '>' :: _ => true
  | c :: _ => isBlank c
  | [] => false

/-- Splits a text before the first `<svg` that is a whole name; the second part starts after it. -/
def find? : List Char → Option (List Char × List Char)
  | [] => none
  | c :: s =>
    match stripStart? "<svg".toList (c :: s) with
    | some rest =>
      if endsName rest then some ([], rest) else (find? s).map fun (b, r) => (c :: b, r)
    | none => (find? s).map fun (b, r) => (c :: b, r)

/-! ### Writing -/

/-- The value of the first attribute of a name. -/
def attribute? (t : SvgTag) (name : String) : Option String :=
  (t.attributes.find? (·.name = name)).map (·.value)

/-- An attribute in quotes that its value does not contain, if it is free of one kind. -/
def writeAttribute (a : SvgAttribute) : List Char :=
  let quote := if a.value.toList.contains '"' then '\'' else '"'
  ' ' :: (a.name.toList ++ '=' :: quote :: (a.value.toList ++ [quote]))

def write (t : SvgTag) : List Char :=
  "<svg".toList ++ t.attributes.flatMap writeAttribute ++
    (if t.selfClosing then "/>".toList else ">".toList)

end SvgTag

/-- The root tag of some markup: the first tag of that name, if it can be read. -/
def SvgRoot.read? (markup : String) : Option SvgRoot := do
  let (before, body) ← SvgTag.find? markup.toList
  let (tag, after) ← SvgTag.read? body
  return ⟨before, tag, after⟩

namespace SvgRoot

/-- The byte offset at which the tag starts. -/
def start (r : SvgRoot) : Nat :=
  utf8Length r.before

/-- The byte offset after the tag, in markup of the given length. -/
def stop (r : SvgRoot) (markup : String) : Nat :=
  markup.utf8ByteSize - utf8Length r.after

def write (r : SvgRoot) : String :=
  String.ofList (r.before ++ r.tag.write ++ r.after)

end SvgRoot

/-! ### Sizes -/

namespace SvgTag

/-- The number in a length attribute, with or without the unit of pixels. -/
def lengthOf? (t : SvgTag) (name : String) : Option Float32 :=
  (t.attribute? name).bind fun value =>
    let text := trimChars value.toList
    readSingle? ((stripEnd? "px".toList text).getD text)

/-- Replaces the value of every attribute of a name, or adds the attribute at the end. -/
def setAttribute (t : SvgTag) (name value : String) : SvgTag :=
  if (t.attribute? name).isSome then
    { t with attributes := t.attributes.map fun a => if a.name = name then { a with value } else a }
  else { t with attributes := t.attributes ++ [⟨name, value⟩] }

/-- Adds an attribute at the end unless it is there. -/
def addAttribute (t : SvgTag) (name value : String) : SvgTag :=
  if (t.attribute? name).isSome then t
  else { t with attributes := t.attributes ++ [⟨name, value⟩] }

/-- Gives the tag a size in a unit, and a view box of the size that it had before, or else of the
new one, unless it has a view box. -/
def resize (t : SvgTag) (width height : Float32) (unit : LengthUnit) : SvgTag :=
  let viewWidth := (t.lengthOf? "width").getD width
  let viewHeight := (t.lengthOf? "height").getD height
  ((t.setAttribute "width" (unit.formatLength width)).setAttribute "height"
    (unit.formatLength height)).addAttribute "viewBox"
      ("0 0 " ++ formatNumber viewWidth ++ " " ++ formatNumber viewHeight)

end SvgTag

/-- Gives the root tag of some markup a size in a unit. Markup without a root tag stays as it is. -/
def normalizeSvg (markup : String) (width height : Float32) (unit : LengthUnit) : String :=
  match SvgRoot.read? markup with
  | some root => { root with tag := root.tag.resize width height unit }.write
  | none => markup

end SceneCompiler
