import SceneCompiler.Number.Shortest
import SceneCompiler.Plugin.Frame
import SceneCompiler.Text.Hidden
/-!
# Frames in words

The text of a frame in messages about unexpected replies: records with the names of their fields,
quoted texts, and JSON values by the names of their types.
-/

namespace SceneCompiler

/-! ### Lists and quotes -/

def codePointText (c : Char) : List Char :=
  "\\u\x7b".toList ++ Nat.toDigits 16 c.toNat ++ "\x7d".toList

def quotedChar (c : Char) : List Char :=
  if c = '"' then "\\\"".toList
  else if c = '\\' then "\\\\".toList
  else if c = '\n' then "\\n".toList
  else if c = '\r' then "\\r".toList
  else if c = '\t' then "\\t".toList
  else if c.toNat = 0 then "\\0".toList
  else if isHidden c then codePointText c
  else [c]

def quotedText (s : String) : String :=
  String.ofList ('"' :: (s.toList.flatMap quotedChar ++ ['"']))

def bracketedText (items : List String) : String :=
  "[" ++ String.intercalate ", " items ++ "]"

def recordText (name : String) (fields : List (String × String)) : String :=
  name ++ " \x7b " ++ String.intercalate ", " (fields.map fun (f, text) => f ++ ": " ++ text) ++
    " \x7d"

def optionalText : Option String → String
  | some text => "Some(" ++ text ++ ")"
  | none => "None"

/-! ### JSON values -/

namespace Json

mutual

def inWords : Json → String
  | .null => "Null"
  | .bool b => if b then "Bool(true)" else "Bool(false)"
  | .int n => "Number(" ++ integerText n ++ ")"
  | .float x =>
    match Exact.ofDouble? x with
    | some e => "Number(" ++ String.ofList (Shortest.text e) ++ ")"
    | none => "Null"
  | .str s => "String(" ++ quotedText s ++ ")"
  | .arr items => "Array " ++ bracketedText (itemsInWords items)
  | .obj members => "Object \x7b" ++ String.intercalate ", " (membersInWords members) ++ "\x7d"

def itemsInWords : List Json → List String
  | [] => []
  | j :: rest => inWords j :: itemsInWords rest

def membersInWords : List (String × Json) → List String
  | [] => []
  | (k, j) :: rest => (quotedText k ++ ": " ++ inWords j) :: membersInWords rest

end

end Json

/-! ### Frames -/

def HookKind.inWords : HookKind → String
  | .transform => "Transform"
  | .transformVariable => "TransformVariable"
  | .transformPx => "TransformPx"
  | .transformComponent => "TransformComponent"

def HookRequest.inWords (r : HookRequest) : String :=
  recordText "Request"
    [("id", integerText r.id), ("hook", r.hook.inWords), ("payload", r.payload.inWords)]

def HookResponse.inWords (r : HookResponse) : String :=
  recordText "Response"
    [("id", integerText r.id), ("result", optionalText (r.result.map (·.inWords))),
      ("error", optionalText (r.error.map quotedText))]

def Frame.inWords : Frame → String
  | .load code bindings => recordText "Load"
    [("code", quotedText code), ("bindings", bracketedText (bindings.map quotedText))]
  | .loaded hooks => recordText "Loaded" [("hooks", bracketedText (hooks.map quotedText))]
  | .failed reason => recordText "Failed" [("error", quotedText reason)]
  | .batch requests =>
    recordText "Batch" [("requests", bracketedText (requests.map (·.inWords)))]
  | .results responses =>
    recordText "Results" [("responses", bracketedText (responses.map (·.inWords)))]

end SceneCompiler
