import SceneCompiler.Proofs.Compile.Plain
import SceneCompiler.Proofs.Markup.RoundTrip
import SceneCompiler.Proofs.Operation.TokenNames
import SceneCompiler.Proofs.Plugin.Defaults
/-!
# Compilations with interchangeable plugins

Each stage reads the answers of its hook in a way of its own: names are parsed, literals are looked
up in a table, bodies stand in place of others, and components are decoded. None of them tells a
call without a usable value from a call that gives back what it was told, so a compilation on fresh
caches has the same result with interchangeable plugins.

* `canonicalName_settled`, `replace_settled`, `text?_settled`, `code_settled`: what a stage makes of
  an answer is what it makes of that to which the call comes.
* `compileTree_coupled`: the whole compilation.
-/

namespace SceneCompiler

open TokenExpression

/-! ## Names of tokens -/

/-- A text that names no token is passed over. -/
theorem canonicalName_of_nameless {raw : String} {chosen : Option String}
    (h : ((chosen.bind parse?).any fun e => e.name.toList.any (· ≠ '-')) = false) :
    canonicalName raw chosen = normalizeName raw := by
  unfold canonicalName
  cases hparsed : chosen.bind parse? with
  | none => rfl
  | some e =>
    rw [hparsed, Option.any_some] at h
    have hdashes : e.name.toList.dropWhile (· = '-') = [] := by
      rw [List.dropWhile_eq_nil_iff]
      simpa using h
    rw [Option.map_some, hdashes]

/-- A reference to the normalized name chooses that name, whether or not it can be read. -/
theorem canonicalName_of_default (raw : String) :
    canonicalName raw (some (referenceTo (normalizeName raw))) = normalizeName raw := by
  have hname := undashed_normalizeName raw
  have hparsed := parse?_of_mem_spellings hname (referenceTo_mem_spellings _)
  by_cases hopens : Opens (normalizeName raw).toList
  · rw [if_pos hopens] at hparsed
    obtain ⟨first, rest, hcons, hdash, -⟩ := hname
    have hkept : (normalizeName raw).toList.dropWhile (· = '-') = first :: rest := by
      rw [hcons, List.dropWhile_cons_of_neg (by simpa using hdash)]
    unfold canonicalName
    rw [Option.bind_some, hparsed, Option.map_some, hkept]
    show String.ofList (first :: rest) = normalizeName raw
    rw [← hcons, String.ofList_toList]
  · rw [if_neg hopens] at hparsed
    refine canonicalName_of_nameless ?_
    rw [Option.bind_some, hparsed]
    rfl

theorem canonicalName_settled (c : TokenCandidate) (options : CompileOptions)
    (value : Option Json) :
    canonicalName c.rawName (value.bind Json.text?) = canonicalName c.rawName
      (HookKind.transformVariable.settled (c.payload options) value).text? := by
  have hdefault : (HookKind.transformVariable.defaultValue (c.payload options)).text?
      = some (referenceTo (normalizeName c.rawName)) := by
    have hcode := code_payload c options
    unfold HookKind.defaultValue HookKind.defaultKey
    cases hmember : (c.payload options).member? "code" with
    | none => rw [hmember] at hcode; cases hcode
    | some code => rw [hmember] at hcode; exact hcode
  cases husable : value.any HookKind.transformVariable.uses with
  | false =>
    rw [HookKind.settled_of_unusable husable, hdefault, canonicalName_of_default]
    apply canonicalName_of_nameless
    cases value with
    | none => rfl
    | some value => exact husable
  | true =>
    cases value with
    | none => cases husable
    | some value =>
      have hused : HookKind.transformVariable.uses value = true := husable
      rw [HookKind.settled_of_usable hused]
      rfl

/-- The candidates get the same names from answers that come to the same. -/
theorem TokenIndex.extend_alike {options : CompileOptions} :
    ∀ (candidates : List TokenCandidate) {values values' : List (Option Json)} (x : TokenIndex),
      AlikeAll .transformVariable (candidates.map (·.payload options)) values values' →
      x.extend candidates (values.map fun v => v.bind Json.text?)
        = x.extend candidates (values'.map fun v => v.bind Json.text?) := by
  intro candidates
  induction candidates with
  | nil => exact fun _ _ => rfl
  | cons c rest ih =>
    intro values values' x h
    cases h with
    | cons hsettled hrest =>
      rename_i value value' _ _
      have hname : canonicalName c.rawName (value.bind Json.text?)
          = canonicalName c.rawName (value'.bind Json.text?) := by
        rw [canonicalName_settled c options, canonicalName_settled c options, hsettled]
      have hadd : x.add c (value.bind Json.text?) = x.add c (value'.bind Json.text?) := by
        unfold TokenIndex.add
        rw [hname]
      show (x.add c (value.bind Json.text?)).extend rest _
        = (x.add c (value'.bind Json.text?)).extend rest _
      rw [hadd]
      exact ih _ hrest

/-! ## Texts in place of others -/

/-- A hook that takes any text: a call comes to the text that it has, or else to the default. -/
theorem HookKind.text?_settled {hook : HookKind} {payload : Json} {text : String}
    (huses : ∀ value, hook.uses value = value.text?.isSome)
    (hdefault : hook.defaultValue payload = .str text) (value : Option Json) :
    (hook.settled payload value).text? = some ((value.bind Json.text?).getD text) := by
  cases hvalue : value.bind Json.text? with
  | none =>
    have hunusable : value.any hook.uses = false := by
      cases value with
      | none => rfl
      | some value =>
        have htext : value.text? = none := hvalue
        rw [Option.any_some, huses, htext]
        rfl
    rw [HookKind.settled_of_unusable hunusable, hdefault]
    rfl
  | some other =>
    obtain ⟨value, rfl, htext⟩ := Option.bind_eq_some_iff.mp hvalue
    have husable : hook.uses value = true := by
      rw [huses, htext]
      rfl
    rw [HookKind.settled_of_usable husable]
    exact htext

theorem pixelText_alike {literal : String} {value value' : Option Json}
    (h : HookKind.transformPx.settled (pixelPayload literal) value
      = HookKind.transformPx.settled (pixelPayload literal) value') :
    (value.bind Json.text?).getD literal = (value'.bind Json.text?).getD literal := by
  have hdefault : HookKind.transformPx.defaultValue (pixelPayload literal) = .str literal := rfl
  have htext := congrArg Json.text? h
  rw [HookKind.text?_settled (fun _ => rfl) hdefault,
    HookKind.text?_settled (fun _ => rfl) hdefault] at htext
  exact Option.some.inj htext

theorem bodyText_alike {d : Declarations} {value value' : Option Json}
    (h : HookKind.transform.settled (rulePayload d) value
      = HookKind.transform.settled (rulePayload d) value') :
    (value.bind Json.text?).getD (String.ofList (ruleBody d))
      = (value'.bind Json.text?).getD (String.ofList (ruleBody d)) := by
  have hdefault : HookKind.transform.defaultValue (rulePayload d)
      = .str (String.ofList (ruleBody d)) := rfl
  have htext := congrArg Json.text? h
  rw [HookKind.text?_settled (fun _ => rfl) hdefault,
    HookKind.text?_settled (fun _ => rfl) hdefault] at htext
  exact Option.some.inj htext

/-! ## Pixel literals -/

/-- The tables put the same texts in the place of literals. -/
def SamePixels (table table' : TextMap) : Prop :=
  ∀ literal : String, table[literal]?.getD literal = table'[literal]?.getD literal

theorem SamePixels.replace {table table' : TextMap} (h : SamePixels table table')
    (value : String) : Pixels.replace table value = Pixels.replace table' value := by
  unfold Pixels.replace
  refine congrArg String.ofList (List.flatMap_congr fun piece _ => ?_)
  cases piece with
  | other c => rfl
  | literal text =>
    have hshown := h (String.ofList text)
    dsimp only
    cases hleft : table[String.ofList text]? with
    | none =>
      cases hright : table'[String.ofList text]? with
      | none => rfl
      | some other =>
        rw [hleft, hright] at hshown
        obtain rfl : String.ofList text = other := hshown
        exact String.toList_ofList.symm
    | some other =>
      cases hright : table'[String.ofList text]? with
      | none =>
        rw [hleft, hright] at hshown
        obtain rfl : other = String.ofList text := hshown
        exact String.toList_ofList
      | some other' =>
        rw [hleft, hright] at hshown
        rw [show other = other' from hshown]

/-- Tables that are filled with answers to the same literals, each once. -/
theorem samePixels_foldl {step : TextMap → String × Option String → TextMap}
    (hstep : ∀ table literal text k,
      (step table (literal, text))[k]? = if literal = k then text.or table[k]? else table[k]?) :
    ∀ (literals : List String) {values values' : List (Option Json)} (table table' : TextMap),
      literals.Nodup → AlikeAll .transformPx (literals.map pixelPayload) values values' →
      SamePixels table table' →
      (∀ literal ∈ literals, table[literal]? = none ∧ table'[literal]? = none) →
      SamePixels ((literals.zip (values.map fun v => v.bind Json.text?)).foldl step table)
        ((literals.zip (values'.map fun v => v.bind Json.text?)).foldl step table') := by
  intro literals
  induction literals with
  | nil => exact fun _ _ _ _ hsame _ => hsame
  | cons literal rest ih =>
    intro values values' table table' hnodup h hsame hnew
    obtain ⟨hfirst, hrest⟩ := List.nodup_cons.mp hnodup
    cases h with
    | cons hsettled halike =>
      refine ih _ _ hrest halike ?_ ?_
      · intro k
        rw [hstep, hstep]
        by_cases hk : literal = k
        · -- Only here a text may stand on one side and the literal itself on the other.
          subst hk
          rw [if_pos rfl, if_pos rfl, (hnew literal List.mem_cons_self).1,
            (hnew literal List.mem_cons_self).2, Option.or_none, Option.or_none]
          exact pixelText_alike hsettled
        · rw [if_neg hk, if_neg hk]
          exact hsame k
      · intro other hother
        have hne : literal ≠ other := by
          intro heq
          exact hfirst (heq ▸ hother)
        rw [hstep, hstep, if_neg hne, if_neg hne]
        exact hnew other (List.mem_cons_of_mem literal hother)

/-! ## Bodies of rules -/

/-- The bodies that answers to the same rules put in. -/
theorem foldl_bodies_alike (declared : List (NodeId × Declarations)) :
    ∀ {values values' : List (Option Json)} (bodies : Std.ExtTreeMap NodeId String),
      AlikeAll .transform (declared.map fun d => rulePayload d.2) values values' →
      (declared.zip (values.map fun v => v.bind Json.text?)).foldl
          (fun (bodies : Std.ExtTreeMap NodeId String) d =>
            bodies.insert d.1.1 (d.2.getD (String.ofList (ruleBody d.1.2)))) bodies
        = (declared.zip (values'.map fun v => v.bind Json.text?)).foldl
          (fun (bodies : Std.ExtTreeMap NodeId String) d =>
            bodies.insert d.1.1 (d.2.getD (String.ofList (ruleBody d.1.2)))) bodies := by
  induction declared with
  | nil => exact fun _ _ => rfl
  | cons d rest ih =>
    intro values values' bodies halike
    cases halike with
    | cons hsettled hrest =>
      rw [List.map_cons, List.map_cons, List.zip_cons_cons, List.zip_cons_cons, List.foldl_cons,
        List.foldl_cons]
      dsimp only
      rw [bodyText_alike hsettled]
      exact ih _ hrest

/-! ## Components -/

/-- A component that comes back unchanged has its own code. -/
theorem ComponentTree.code_toJson (t : ComponentTree) : t.code (some t.toJson) = t.render := by
  show ((ComponentTree.ofJson? t.toJson).getD t).render = t.render
  rw [ComponentTree.ofJson?_toJson]
  rfl

theorem ComponentTree.code_of_unusable {value : Json}
    (h : HookKind.transformComponent.uses value = false) (t : ComponentTree) :
    t.code (some value) = t.render := by
  obtain ⟨htext, htree⟩ := Bool.or_eq_false_iff.mp
    (show (value.text?.isSome || (ComponentTree.ofJson? value).isSome) = false from h)
  have hundecoded := Option.not_isSome_iff_eq_none.mp (Bool.eq_false_iff.mp htree)
  cases value with
  | str code => cases htext
  | _ =>
    show ((ComponentTree.ofJson? _).getD t).render = t.render
    rw [hundecoded]
    rfl

theorem ComponentTree.code_settled (t : ComponentTree) (value : Option Json) :
    t.code value = t.code (some (HookKind.transformComponent.settled t.payload value)) := by
  have hdefault : HookKind.transformComponent.defaultValue t.payload = t.toJson := rfl
  cases husable : value.any HookKind.transformComponent.uses with
  | false =>
    rw [HookKind.settled_of_unusable husable, hdefault, t.code_toJson]
    cases value with
    | none => rfl
    | some value => exact ComponentTree.code_of_unusable husable t
  | true =>
    cases value with
    | none => cases husable
    | some value =>
      have hused : HookKind.transformComponent.uses value = true := husable
      rw [HookKind.settled_of_usable hused]

/-! ## Stages -/

variable {m : Type → Type} [Monad m] [LawfulMonad m]
  {T : Option (Channel m) → Option (Channel m) → Prop} {p p' : Option (Channel m)}

theorem hookTexts_coupled (hT : Interchangeable T) (h : T p p') (hook : HookKind)
    (payloads : List Json) :
    Coupled (fun o o' => (∃ values values', AlikeAll hook payloads values values'
        ∧ o.1 = values.map (fun v => v.bind Json.text?)
        ∧ o'.1 = values'.map (fun v => v.bind Json.text?)) ∧ T o.2 o'.2)
      (hookTexts p hook payloads) (hookTexts p' hook payloads) := by
  unfold hookTexts
  refine (hT p p' h hook payloads).bind ?_
  intro o o' ho
  exact coupled_pure ⟨⟨o.1, o'.1, ho.1, rfl, rfl⟩, ho.2⟩

theorem transformPixels_coupled (hT : Interchangeable T) (h : T p p') (styles : StyleMap) :
    Coupled (fun o o' => o.1 = o'.1 ∧ T o.2 o'.2) (transformPixels p styles)
      (transformPixels p' styles) := by
  unfold transformPixels
  refine (hookTexts_coupled hT h .transformPx (styles.pixelLiterals.map pixelPayload)).bind ?_
  intro o o' ho
  obtain ⟨⟨values, values', halike, hleft, hright⟩, hplugin⟩ := ho
  refine coupled_pure ⟨?_, hplugin⟩
  dsimp only
  rw [hleft, hright]
  refine congrArg (StyleMap.mapValues · styles) (funext fun value => ?_)
  apply SamePixels.replace
  refine samePixels_foldl ?_ styles.pixelLiterals ∅ ∅ styles.pairwise_pixelLiterals.nodup halike
    (fun _ => rfl) ?_
  · intro table literal text k
    cases text with
    | none => simp
    | some text => simp [Std.ExtTreeMap.getElem?_insert]
  · intro literal _
    simp

theorem ruleBodies_coupled (hT : Interchangeable T) (h : T p p') (order : List NodeId)
    (styles : StyleMap) :
    Coupled (fun o o' => o.1 = o'.1 ∧ T o.2 o'.2) (ruleBodies p order styles)
      (ruleBodies p' order styles) := by
  unfold ruleBodies
  refine (hookTexts_coupled hT h .transform _).bind ?_
  intro o o' ho
  obtain ⟨⟨values, values', halike, hleft, hright⟩, hplugin⟩ := ho
  refine coupled_pure ⟨?_, hplugin⟩
  dsimp only
  rw [hleft, hright]
  exact foldl_bodies_alike _ ∅ halike

theorem componentCode_coupled (hT : Interchangeable T) (h : T p p') (t : ComponentTree) :
    Coupled (fun o o' => o.1 = o'.1 ∧ T o.2 o'.2) (componentCode p t) (componentCode p' t) := by
  unfold componentCode
  have hcode : ∀ answers answers' : List (Option Json),
      AlikeAll .transformComponent [t.payload] answers answers' →
      t.code answers.head?.join = t.code answers'.head?.join := by
    intro answers answers' halike
    cases halike with
    | cons hsettled hrest =>
      rename_i value value' _ _
      show t.code value = t.code value'
      rw [t.code_settled value, hsettled, ← t.code_settled value']
  refine (hT p p' h .transformComponent [t.payload]).bind ?_
  intro o o' ho
  exact coupled_pure ⟨hcode o.1 o'.1 ho.1, ho.2⟩

namespace Session

/-! ## The index -/

/-- Neither of the caches has a token index, and they agree in pictures. -/
structure BothUnindexed (c d : Caches m) : Prop where
  left : c.tokenIndexes = ∅
  right : d.tokenIndexes = ∅
  pictures : c.SamePictures d

theorem tokenIndex_coupled (hT : Interchangeable T) (h : T p p') (candidates : List TokenCandidate)
    (options : CompileOptions) {c d : Caches m} (hcd : BothUnindexed c d) :
    Coupled (fun o o' => (o.1.1 = o'.1.1 ∧ T o.1.2 o'.1.2) ∧ o.2.SamePictures o'.2)
      ((tokenIndex p candidates options).run c) ((tokenIndex p' candidates options).run d) := by
  have hnothing : ∀ c : Caches m, c.tokenIndexes = ∅ → ∀ key : CacheKey,
      c.tokenIndexes[key]? = none := by
    intro c hc key
    rw [hc]
    simp
  unfold tokenIndex
  dsimp only
  rw [StateT.run_bind, StateT.run_bind, StateT.run_get, StateT.run_get, pure_bind, pure_bind]
  dsimp only
  rw [hnothing c hcd.left, hnothing d hcd.right]
  simp only [Option.isSome_none, Bool.false_and, Bool.false_eq_true, if_false, Option.getD_none]
  refine Alongside.bind
    (S := fun o o' : TokenIndex × Option (Channel m) => o.1 = o'.1 ∧ T o.2 o'.2)
    (alongside_lift (hookTexts_coupled hT h .transformVariable _)) ?_ c d hcd.pictures
  intro o o' ho
  obtain ⟨⟨values, values', halike, hleft, hright⟩, hplugin⟩ := ho
  -- The index is stored under two keys, of which the later stages do not know.
  have hstore : ∀ (key : CacheKey) (x : TokenIndex) (c : Caches m),
      c.SamePictures (c.storeTokenIndex key x) := fun _ _ _ => ⟨rfl, rfl, rfl⟩
  refine Alongside.bind (alongside_modify (hstore _ _) (hstore _ _)) ?_
  intro _ _ _
  refine alongside_pure ⟨?_, hplugin⟩
  dsimp only
  rw [hleft, hright]
  exact TokenIndex.extend_alike _ _ halike

/-! ## The compilation -/

theorem keepPlugin_alongside (options : CompileOptions) (p p' : Option (Channel m)) :
    Alongside (fun _ _ => True) (keepPlugin options p) (keepPlugin options p') := by
  have hmodify : ∀ p : Option (Channel m), ∃ f : Caches m → Caches m,
      keepPlugin options p = modify f ∧ ∀ c : Caches m, c.SamePictures (f c) := by
    intro p
    cases p with
    | none => exact ⟨id, rfl, .refl⟩
    | some channel => exact ⟨_, rfl, fun _ => ⟨rfl, rfl, rfl⟩⟩
  obtain ⟨f, hf, hsame⟩ := hmodify p
  obtain ⟨f', hf', hsame'⟩ := hmodify p'
  rw [hf, hf']
  exact alongside_modify hsame hsame'

/-- With interchangeable plugins, and on caches that have no token index, a compilation has one
result. -/
theorem compileTree_coupled (hT : Interchangeable T) (h : T p p') (s : Session m) (g : SceneGraph)
    (tree : VisibleTree) (options : CompileOptions) {c d : Caches m} (hcd : BothUnindexed c d) :
    Coupled (fun o o' => o.1 = o'.1) ((s.compileTree g tree p options).run c)
      ((s.compileTree g tree p' options).run d) := by
  have hpictures := pictureSteps_alongside s
  unfold compileTree
  rw [StateT.run_bind, StateT.run_bind]
  show Coupled _ ((monadLift (s.collectStyles g tree) : CacheM m _).run c >>= _)
    ((monadLift (s.collectStyles g tree) : CacheM m _).run d >>= _)
  rw [StateT.run_monadLift, StateT.run_monadLift, bind_assoc, bind_assoc]
  refine (coupled_refl (s.collectStyles g tree)).bind ?_
  rintro styles _ rfl
  rw [pure_bind, pure_bind]
  dsimp only
  rw [StateT.run_bind, StateT.run_bind]
  refine (tokenIndex_coupled hT h (g.tokenCandidates tree) options hcd).bind ?_
  rintro ⟨⟨index, q⟩, c'⟩ ⟨⟨_, q'⟩, d'⟩ ⟨⟨rfl, hq⟩, hcd'⟩
  -- The caches with the new indexes agree in pictures, and no later stage looks at anything else.
  refine Coupled.imp (R := fun o o' => o.1 = o'.1 ∧ o.2.SamePictures o'.2) ?_ fun _ _ ho => ho.1
  refine Alongside.bind (R := fun o o' => o.1 = o'.1 ∧ T o.2 o'.2)
    (alongside_lift (transformPixels_coupled hT hq _)) ?_ c' d' hcd'
  rintro ⟨styles, q₁⟩ ⟨_, q₁'⟩ ⟨rfl, hq₁⟩
  refine (hpictures.exportPictures g tree _ options).bind ?_
  rintro pictures _ rfl
  refine (hpictures.collectTexts g tree).bind ?_
  rintro texts _ rfl
  refine (alongside_lift (ruleBodies_coupled hT hq₁ _ _)).bind ?_
  rintro ⟨bodies, q₂⟩ ⟨_, q₂'⟩ ⟨rfl, hq₂⟩
  refine (alongside_lift (componentCode_coupled hT hq₂ _)).bind ?_
  rintro ⟨markup, q₃⟩ ⟨_, q₃'⟩ ⟨rfl, hq₃⟩
  refine (keepPlugin_alongside options q₃ q₃').bind ?_
  intro _ _ _
  exact alongside_pure rfl

end Session

end SceneCompiler
