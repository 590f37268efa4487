import Mathlib
import SceneCompiler.Operation.Code
import SceneCompiler.Proofs.Operation.Code
/-!
# Token values after a compilation

A call of `getTokenDefs` looks names up in the index that was stored last, extended by the variables
of the document. The names of the compilation before it keep their values if the index of that
compilation is the one that was stored last; a compilation that finds its index complete does not
store it again, and then an index of another key may speak.

* `requestedTokenName_of_isName`: a token's name asks for that token.
* `getTokenDefs_after_getCode`: the answer about a token of the compilation before.
-/

namespace SceneCompiler

open TokenExpression

/-- A name that starts with no dash asks for the token of that name. -/
theorem requestedTokenName_of_isName {name : String} (hname : IsName name.toList)
    (hdash : name.toList.head? ≠ some '-') : requestedTokenName name = name := by
  have hdrop : name.toList.dropWhile (· = '-') = name.toList := by
    obtain ⟨first, rest, heq, -, -⟩ := hname
    rw [heq] at hdash ⊢
    exact List.dropWhile_cons_of_neg (by simpa using hdash)
  unfold requestedTokenName
  rw [parse?_of_isName hname hdash]
  show String.ofList (name.toList.dropWhile (· = '-')) = name
  rw [hdrop, String.ofList_toList]

variable {m : Type → Type} [Monad m]

/-- The literal of a name in the index that was stored last, extended by the variables of a
document. -/
def Caches.latestLiteral (c : Caches m) (g : SceneGraph) (name : String) : String :=
  ((c.latestTokenIndex?.getD {}).extend g.documentCandidates []).resolveName g.variableTable name
    none

/-- Extending an index keeps the literals of the names that it has. -/
theorem TokenIndex.resolveName_extend {x : TokenIndex} (hx : x.Sound) {name : String}
    (hname : x.buckets.contains name) (cs : List TokenCandidate) (chosen : List (Option String))
    (variableTable : VariableTable) (mode : Option String) :
    (x.extend cs chosen).resolveName variableTable name mode
      = x.resolveName variableTable name mode := by
  obtain ⟨id, hid⟩ := Option.isSome_iff_exists.mp (hx.speaker name hname)
  unfold resolveName
  rw [hid, speaker?_extend hid]

namespace Session

variable [LawfulMonad m]

/-- The answer about one name. -/
theorem getTokenDefs_ensures {t : Session m} {g : SceneGraph} (ht : Answers t.scene (.ok g))
    (c : Caches m) (name : String) :
    Ensures (t.getTokenDefs [name] false).run c fun answer _ =>
      answer = .ok ((∅ : Std.ExtTreeMap String TokenDefinition).insert (requestedTokenName name)
        (.value (c.latestLiteral g (requestedTokenName name)))) := by
  unfold getTokenDefs
  refine (currentScene_ensures ht).run_bind ?_ ?_
  · rintro _ _ ⟨rfl, _, rfl, ⟨⟩⟩
    exact ensures_run_get_bind (ensures_run_pure rfl)
  · rintro _ _ ⟨-, _, rfl, ⟨⟩⟩

/-- After any calls of `getCode`, and one more that succeeds on the scene `g`, a question about a
token of that result is answered from the index that was stored last. The answer is the value in the
result if the last call's index is the one that was stored last. -/
theorem getTokenDefs_after_getCode (history : List (Session m × CodeRequest)) (s t : Session m)
    (q : CodeRequest) (g : SceneGraph) (hs : Answers s.scene (.ok g))
    (ht : Answers t.scene (.ok g)) :
    Ensures (replay history >>= fun _ => (s.getCode q).run) {} fun outcome c =>
      ∀ (r : CompileResult) (name value : String), outcome = .ok r →
        r.tokens[name]? = some value →
          Ensures (t.getTokenDefs [name] false).run c (fun answer _ =>
            answer = .ok ((∅ : Std.ExtTreeMap String TokenDefinition).insert name
              (.value (c.latestLiteral g name))))
          ∧ (c.lastTokenKey = some q.tokenKey → c.latestLiteral g name = value) := by
  refine (replay_sound history Caches.sound_empty).bind ?_
  intro _ c₀ hc₀
  refine (getCode_ensures q hs hc₀).imp ?_
  rintro outcome c ⟨hc, hresult, -⟩ r name value hr hvalue
  obtain ⟨g', x, styles, hg', hindexed, htokens⟩ := hresult r hr
  obtain rfl : g' = g := by simpa using hg'
  -- A token of the result is a name that the index has and that the styles refer to.
  rw [htokens, getElem?_tokenValues] at hvalue
  have hreferenced : name ∈ styles.referencedTokens x := by
    by_contra hnot
    simp [hnot] at hvalue
  rw [if_pos hreferenced, Option.some.injEq] at hvalue
  obtain ⟨⟨written, -, hwritten⟩, hbucket⟩ := StyleMap.mem_referencedTokens.mp hreferenced
  have hx : x.Sound := hc₀.index hindexed
  have hrequested : requestedTokenName name = name :=
    requestedTokenName_of_isName (StyleMap.isName_of_mem_referenceNames _ hwritten)
      (hx.head name hbucket)
  constructor
  · have hanswer := getTokenDefs_ensures ht c name
    rwa [hrequested] at hanswer
  · intro hlast
    have hlatest : c.latestTokenIndex? = some x := by
      unfold Caches.latestTokenIndex?
      rw [hlast, Option.bind_some, hindexed.found]
    unfold Caches.latestLiteral
    rw [hlatest, Option.getD_some, TokenIndex.resolveName_extend hx hbucket, hvalue]

/-! ### On the scene whose names collide -/

/-- The literal of a name in an answer. -/
def literalIn (answer : Except SessionError (Std.ExtTreeMap String TokenDefinition))
    (name : String) : Option String :=
  match answer with
  | .ok table =>
    match table[name]? with
    | some (.value literal) => some literal
    | _ => none
  | .error _ => none

/-- One call, and a question about its token. -/
theorem getTokenDefs_after_one_call :
    tokenIn (collidingRun [] (.ofNode "1:2" 1)).1 "space-small" = some "8px"
      ∧ literalIn (((showing collidingScene).getTokenDefs ["space-small"] false).run.run
        (collidingRun [] (.ofNode "1:2" 1)).2).1 "space-small" = some "8px" := by
  have hvalue : tokenIn (collidingRun [] (.ofNode "1:2" 1)).1 "space-small" = some "8px" := by
    decide +kernel
  have hlast : (collidingRun [] (.ofNode "1:2" 1)).2.lastTokenKey
      = some (CodeRequest.ofNode "1:2" 1).tokenKey := by decide +kernel
  have hshown : Answers (showing collidingScene).scene (.ok collidingScene) := answers_id.mpr rfl
  have hspec := ensures_id.mp (getTokenDefs_after_getCode (m := Id) [] (showing collidingScene)
    (showing collidingScene) (.ofNode "1:2" 1) collidingScene hshown hshown)
  obtain ⟨r, hr, htoken⟩ := exists_of_tokenIn hvalue
  obtain ⟨hanswer, hliteral⟩ := hspec r "space-small" "8px" hr htoken
  rw [hliteral hlast] at hanswer
  have hliteralIn := congrArg (literalIn · "space-small") (ensures_id.mp hanswer)
  exact ⟨hvalue, hliteralIn.trans (by decide +kernel)⟩

/-- A call for the second frame, one at another scale for the first frame, and the call for the
second frame again, which finds its index complete. The question about its token is answered from
the index of the other scale. -/
theorem getTokenDefs_of_other_scale :
    tokenIn (collidingRun [.ofNode "1:2" 1, .ofNode "1:1" 2] (.ofNode "1:2" 1)).1 "space-small"
        = some "8px"
      ∧ literalIn (((showing collidingScene).getTokenDefs ["space-small"] false).run.run
        (collidingRun [.ofNode "1:2" 1, .ofNode "1:1" 2] (.ofNode "1:2" 1)).2).1 "space-small"
        = some "4px" := by
  decide +kernel

end Session

end SceneCompiler
