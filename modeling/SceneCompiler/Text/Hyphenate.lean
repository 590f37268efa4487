import SceneCompiler.Text.Class
/-!
# Hyphenated names

A name is brought into small letters with its words joined by single dashes. A predicate says which
characters belong to words.
-/

namespace SceneCompiler

/-- Joins the words of a text by dashes; `started` if a word came before, `pending` if characters
between words came after it. -/
def hyphenateFrom (keep : Char → Bool) (started pending : Bool) : List Char → List Char
  | [] => []
  | c :: s =>
    if keep c then
      (if started && pending then ['-', c.toLower] else [c.toLower]) ++
        hyphenateFrom keep true false s
    else hyphenateFrom keep started true s

/-- The words of a text in small letters, joined by dashes. -/
def hyphenate (keep : Char → Bool) (s : List Char) : List Char :=
  hyphenateFrom keep false false s

end SceneCompiler
