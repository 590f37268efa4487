import SceneCompiler.Scene.Decode
import SceneCompiler.Scene.Encode
import SceneCompiler.Token.Index
/-!
# Token indexes in JSON

The JSON forms of candidates and of indexes. Candidates can be read too.
-/

namespace SceneCompiler

def TokenCandidate.toJson (c : TokenCandidate) : Json :=
  .obj [("id", c.id.toJson), ("raw_name", .str c.rawName), ("value", .ofOption .str c.value)]

def TokenCandidate.ofJson? (j : Json) : Option TokenCandidate := do
  let [id, rawName, value] ← j.fields? ["id", "raw_name", "value"] | none
  return {
    id := ← id.required? VariableId.ofJson?
    rawName := ← rawName.required? Json.text?
    value := ← value.optional? Json.text? }

def Json.ofNames (names : Std.ExtTreeMap VariableId String) : Json :=
  .obj (names.toList.map fun (id, name) => (id.text, .str name))

def TokenIndex.toJson (x : TokenIndex) : Json :=
  .obj [("by_canonical_name", .obj (x.buckets.toList.map fun (name, bucket) =>
      (name, .ofList VariableId.toJson bucket))),
    ("canonical_name_by_id", .ofNames x.canonicalNames),
    ("raw_name_by_id", .ofNames x.rawNames)]

end SceneCompiler
