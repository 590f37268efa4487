import Std.Data.ExtTreeSet
import SceneCompiler.Style.Basic
import SceneCompiler.Token.Index
/-!
# Rewriting references to tokens

Style values refer to variables by raw names, in `var(--name)` or bare. A rewrite table turns those
into canonical names in one scan from left to right; text that was put in is not looked at again.
-/

namespace SceneCompiler

/-- What raw names are replaced by: the names of references, and bare names with the longest
first. -/
structure RewriteTable where
  references : Std.ExtTreeMap String String := ∅
  bare : List (List Char × List Char) := []

/-- Bare names in the order in which they are tried: longer ones first (in bytes), then in the order
of texts. -/
def tryBefore (a b : String × String) : Bool :=
  b.1.utf8ByteSize < a.1.utf8ByteSize ||
    (b.1.utf8ByteSize == a.1.utf8ByteSize && (compare a.1 b.1).isLE)

/-- Of neighbours with the same name only the first stays. -/
def dropRepeats : List (String × String) → List (String × String)
  | a :: b :: rest => if a.1 = b.1 then dropRepeats (a :: rest) else a :: dropRepeats (b :: rest)
  | short => short

namespace TokenIndex

/-- Raw and canonical names of the known variables, in the order of the variables. -/
def namePairs (x : TokenIndex) : List (String × String) :=
  x.rawNames.toList.filterMap fun (id, raw) => x.canonicalNames[id]?.map fun name => (raw, name)

/-- The table of an index. A raw name that several variables share stands for the first of them. -/
def rewriteTable (x : TokenIndex) : RewriteTable where
  references := x.namePairs.foldl (fun table (raw, name) =>
    (table.insertIfNew raw name).insertIfNew (normalizeName raw) name) ∅
  bare := (dropRepeats ((x.namePairs.filter fun (raw, name) => raw ≠ name).mergeSort tryBefore)).map
    fun (raw, name) => (raw.toList, name.toList)

end TokenIndex

namespace RewriteTable

def atWordEnd : List Char → Bool
  | c :: _ => !isIdentChar c
  | [] => true

/-- The text starts with the name, and the name ends there. An empty name starts no text. -/
def startsWithName (name s : List Char) : Bool :=
  match stripStart? name s with
  | some rest => !name.isEmpty && atWordEnd rest
  | none => false

/-- What is put in at a place, and how many characters it stands for. `before` is the character in
front of the place. -/
def replacement? (t : RewriteTable) (before : Option Char) (s : List Char) :
    Option (List Char × Nat) :=
  -- A reference may start anywhere, a bare name only where no identifier goes on.
  let reference := do
    let (opening, name, _) ← TokenExpression.referenceStart? s
    let canonical ← t.references[String.ofList name]?
    return (opening ++ canonical.toList, opening.length + name.length)
  reference <|>
    if before.all (fun c => !isIdentChar c) then
      (t.bare.find? fun (raw, _) => startsWithName raw s).map fun (raw, name) => (name, raw.length)
    else none

/-- Rewrites a text; the next `skip` characters have been replaced already. -/
def rewriteFrom (t : RewriteTable) (before : Option Char) : Nat → List Char → List Char
  | _, [] => []
  | skip + 1, c :: s => t.rewriteFrom (some c) skip s
  | 0, c :: s =>
    match t.replacement? before (c :: s) with
    | some (text, length) => text ++ t.rewriteFrom (some c) (length - 1) s
    | none => c :: t.rewriteFrom (some c) 0 s

def rewrite (t : RewriteTable) (value : String) : String :=
  String.ofList (t.rewriteFrom none 0 value.toList)

end RewriteTable

namespace StyleMap

def rewriteTokens (styles : StyleMap) (t : RewriteTable) : StyleMap :=
  styles.mapValues t.rewrite

/-- The names of the references in a text, wherever they start. -/
def referenceNames : List Char → List String
  | [] => []
  | c :: s =>
    match TokenExpression.referenceStart? (c :: s) with
    | some (_, name, _) => String.ofList name :: referenceNames s
    | none => referenceNames s

/-- The canonical names that the values refer to, in order and each once. -/
def referencedTokens (styles : StyleMap) (x : TokenIndex) : List String :=
  let names := styles.values.flatMap fun value => referenceNames value.toList
  (Std.ExtTreeSet.ofList (names.filter x.buckets.contains)).toList

end StyleMap

end SceneCompiler
