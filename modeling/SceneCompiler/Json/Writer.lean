import SceneCompiler.Json.Basic
import SceneCompiler.Number.Decimal
/-!
# JSON texts

Writing a value without blanks. Numbers with a fraction are written by a function of the caller,
since formats differ in how they write them.
-/

namespace SceneCompiler.Json

def escapeNumber (c : Char) : String :=
  let digits := Nat.toDigits 16 c.toNat
  "\\u" ++ String.ofList (List.replicate (4 - digits.length) '0' ++ digits)

/-- Characters that are written by number: controls, and the line breaks beyond ASCII. -/
def isEscaped (c : Char) : Bool :=
  c < ' ' || c == '\x7f' || c == '\u0085' || c == '\u2028' || c == '\u2029'

def pushChar (out : String) (c : Char) : String :=
  if c = '"' then out ++ "\\\""
  else if c = '\\' then out ++ "\\\\"
  else if isEscaped c then out ++ escapeNumber c
  else out.push c

def pushText (out s : String) : String :=
  (s.toList.foldl pushChar (out.push '"')).push '"'

variable (float : Float → String)

mutual

/-- Appends a value; `float` gives the text of a number with a fraction. -/
def push (out : String) : Json → String
  | null => out ++ "null"
  | bool b => out ++ (if b then "true" else "false")
  | int n => out ++ integerText n
  | .float x => out ++ float x
  | str s => pushText out s
  | arr [] => out ++ "[]"
  | arr (j :: rest) => (pushItems (push (out.push '[') j) rest).push ']'
  | obj [] => out ++ "\x7b\x7d"
  | obj ((k, j) :: rest) =>
    pushMembers (push ((pushText (out ++ "\x7b") k).push ':') j) rest ++ "\x7d"

/-- Appends the items of an array after the first. -/
def pushItems (out : String) : List Json → String
  | [] => out
  | j :: rest => pushItems (push (out.push ',') j) rest

/-- Appends the members of an object after the first. -/
def pushMembers (out : String) : List (String × Json) → String
  | [] => out
  | (k, j) :: rest => pushMembers (push ((pushText (out.push ',') k).push ':') j) rest

end

end SceneCompiler.Json
