import Mathlib
import SceneCompiler.Proofs.Operation.Settled
/-!
# Results and the history of a session

A session whose collaborators are functions gives results that depend on its history, but only
through the token index that is kept under the key of a request: it may give names to other
variables first, and they speak for these names from then on.

* `getCode_after_history`: what the history of a session has to do with the result of a call.
* `getCode_of_colliding_history`: a history that makes a difference.
-/

namespace SceneCompiler

/-- Caches that keep nothing but the token index under a key. -/
def Caches.onlyIndex {m : Type → Type} (c : Caches m) (key : CacheKey) : Caches m where
  tokenIndexes := match c.tokenIndexes[key]? with
    | some x => (∅ : Std.ExtTreeMap CacheKey TokenIndex).insert key x
    | none => ∅

theorem Caches.getElem?_onlyIndex {m : Type → Type} (c : Caches m) (key : CacheKey) :
    (c.onlyIndex key).tokenIndexes[key]? = c.tokenIndexes[key]? := by
  unfold onlyIndex
  dsimp only
  cases c.tokenIndexes[key]? with
  | some x => exact Std.ExtTreeMap.getElem?_insert_self
  | none => exact Std.ExtTreeMap.getElem?_empty

theorem Caches.sound_onlyIndex {m : Type → Type} {c : Caches m} (hc : c.Sound) (key : CacheKey) :
    (c.onlyIndex key).Sound where
  indexes key' x h := by
    unfold onlyIndex at h
    dsimp only at h
    split at h
    · next y hy =>
      rw [Std.ExtTreeMap.getElem?_insert] at h
      split at h
      · exact Option.some.inj h ▸ hc.indexes key y hy
      · simp at h
    · simp at h
  plugins := by simp [onlyIndex]

/-- The fingerprints tell the code that one request uses from the code that another one uses. -/
def CodeRequest.ToldApart (q q' : CodeRequest) : Prop :=
  (usedSource? q'.pluginCode).map sourceFingerprint
      = (usedSource? q.pluginCode).map sourceFingerprint →
    usedSource? q'.pluginCode = usedSource? q.pluginCode

namespace Session

variable {s : Session Id}

/-! ## Isolates for plugins -/

/-- The session as a request meets it. What an isolate answers depends on the code that it is given,
so the isolates are a family over the code that a request uses. -/
def meeting (s : Session Id) (isolates : Option String → Option (IsolateFactory Id))
    (q : CodeRequest) : Session Id :=
  { s with isolates := isolates (usedSource? q.pluginCode) }

/-- A plugin that was loaded runs in the isolate that was spawned for it. -/
theorem isolate_of_loadPlugin {source : String} {channel : Channel Id}
    (h : (s.loadPlugin source).run = .ok channel) :
    ∃ factory, s.isolates = some factory ∧ factory.spawn.run = .ok channel.isolate := by
  unfold loadPlugin at h
  split at h
  · cases h
  · next factory hfactory =>
    refine ⟨factory, hfactory, ?_⟩
    rw [Id.run_bind] at h
    split at h
    · cases h
    · next isolate hspawn =>
      rw [hspawn]
      unfold Channel.load at h
      split at h
      · cases h
      · rw [Id.run_bind] at h
        split at h
        · cases h
        · obtain rfl := Except.ok.inj h
          rfl

/-- The plugin for some code has given answers whenever it loads. -/
structure Answered (s : Session Id) (code : Option String)
    (answer : HookKind → Json → Option Json) : Prop where
  absent : code = none → Gives none answer
  loaded : ∀ source, code = some source → ∀ channel, (s.loadPlugin source).run = .ok channel →
    Gives (some channel) answer

/-- Isolates that answer by payload make up a plugin with given answers. -/
theorem exists_answered (code : Option String)
    (hreplies : ∀ factory isolate, s.isolates = some factory → factory.spawn.run = .ok isolate →
      ∃ reply, isolate.Replies reply) : ∃ answer, Answered s code answer := by
  cases code with
  | none => exact ⟨fun _ _ => none, fun _ _ _ => rfl, nofun⟩
  | some source =>
    cases hload : (s.loadPlugin source).run with
    | error e =>
      refine ⟨fun _ _ => none, nofun, ?_⟩
      rintro _ ⟨⟩ channel h
      rw [hload] at h
      cases h
    | ok channel =>
      obtain ⟨factory, hfactory, hspawn⟩ := isolate_of_loadPlugin hload
      obtain ⟨reply, hreply⟩ := hreplies factory channel.isolate hfactory hspawn
      refine ⟨fun hook payload => if channel.hasHook hook then reply hook payload else none,
        nofun, ?_⟩
      rintro _ ⟨⟩ channel' h
      obtain rfl := Except.ok.inj (hload.symm.trans h)
      exact ⟨reply, hreply, fun _ _ => rfl⟩

/-! ## Histories -/

/-- The caches of a new session after some calls. -/
def cachesAfter (s : Session Id) (isolates : Option String → Option (IsolateFactory Id))
    (history : List CodeRequest) : Caches Id :=
  ((replay (history.map fun q => (s.meeting isolates q, q))).run {}).run.2

/-- One more call: its outcome, and the caches that it leaves behind. -/
def call (s : Session Id) (isolates : Option String → Option (IsolateFactory Id)) (q : CodeRequest)
    (c : Caches Id) : Except SessionError CompileResult × Caches Id :=
  (((s.meeting isolates q).getCode q).run.run c).run

/-- What one can rely on in the plugins that a session keeps: a plugin with the fingerprint of the
code of a request has the answers of this code, which loads. -/
def Reliable (s : Session Id) (code : Option String) (answer : HookKind → Json → Option Json)
    (plugin : Option (Channel Id)) : Prop :=
  plugin.map (·.fingerprint) = code.map sourceFingerprint →
    Gives plugin answer ∧ s.loads code = .ok ()

theorem lasting_reliable {code : Option String} {answer : HookKind → Json → Option Json}
    (hanswer : Answered s code answer) : Lasting (Reliable s code answer) where
  none h := by
    cases code with
    | none => exact ⟨hanswer.absent rfl, rfl⟩
    | some source => cases h
  same p p' hsame hp h := by
    obtain ⟨hgives, hloads⟩ := hp (hsame.fingerprint ▸ h)
    exact ⟨hgives.same hsame, hloads⟩

theorem settled_onlyIndex {T : Option (Channel Id) → Prop} {c : Caches Id} (hc : c.Settled s T)
    (key : CacheKey) : (c.onlyIndex key).Settled s T where
  faithful := ⟨InFlight.agrees_empty _, InFlight.agrees_empty _, InFlight.agrees_empty _⟩
  sound := Caches.sound_onlyIndex hc.sound key
  trusted := by simp [Caches.onlyIndex]

/-- The isolates make no difference for what can be relied on. -/
theorem settled_meeting {T : Option (Channel Id) → Prop} {c : Caches Id}
    (isolates : Option String → Option (IsolateFactory Id)) (q : CodeRequest) :
    c.Settled (s.meeting isolates q) T ↔ c.Settled s T :=
  ⟨fun h => ⟨⟨h.faithful.uploads, h.faithful.images, h.faithful.favicons⟩, h.sound, h.trusted⟩,
    fun h => ⟨⟨h.faithful.uploads, h.faithful.images, h.faithful.favicons⟩, h.sound, h.trusted⟩⟩

section History

variable {isolates : Option String → Option (IsolateFactory Id)} {q : CodeRequest}
  {answer : HookKind → Json → Option Json}

/-- A plugin that is loaded for a call can be relied on, if code with the fingerprint of that of the
request is that of the request. -/
theorem loadsTrusted_reliable
    (hanswer : Answered (s.meeting isolates q) (usedSource? q.pluginCode) answer)
    {q' : CodeRequest} (hprints : q.ToldApart q') :
    (s.meeting isolates q').LoadsTrusted
      (Reliable (s.meeting isolates q) (usedSource? q.pluginCode) answer)
      (usedSource? q'.pluginCode) := by
  intro source hsource channel hload hprint
  have hown : channel.fingerprint = sourceFingerprint source :=
    SatisfiesM_Id_eq.mp (loadPlugin_fingerprint source) channel hload
  have hused : usedSource? q'.pluginCode = usedSource? q.pluginCode := by
    refine hprints ?_
    rw [hsource, ← hprint, Option.map_some, Option.map_some, hown]
  -- Both calls use the same code, so they meet the same isolates.
  have hmeeting : s.meeting isolates q' = s.meeting isolates q := by
    unfold meeting
    rw [hused]
  rw [hmeeting] at hload
  rw [hused] at hsource
  refine ⟨hanswer.loaded source hsource channel hload, ?_⟩
  rw [hsource]
  exact congrArg (Except.map fun _ => ()) hload

/-- A call of the history leaves the caches settled. -/
theorem getCode_meeting_settled (hstore : s.StoresByHash)
    (hanswer : Answered (s.meeting isolates q) (usedSource? q.pluginCode) answer)
    {q' : CodeRequest} (hprints : q.ToldApart q') {c : Caches Id}
    (hc : c.Settled s (Reliable (s.meeting isolates q) (usedSource? q.pluginCode) answer)) :
    Ensures ((s.meeting isolates q').getCode q').run c fun _ d =>
      d.Settled s (Reliable (s.meeting isolates q) (usedSource? q.pluginCode) answer) := by
  have hstore' : (s.meeting isolates q').StoresByHash := hstore
  refine (getCode_settled hstore' (lasting_reliable hanswer)
    ((settled_meeting isolates q').mpr hc) q' (loadsTrusted_reliable hanswer hprints)).imp ?_
  intro _ d hd
  exact (settled_meeting isolates q').mp hd

/-- The caches are settled after every history. -/
theorem settled_cachesAfter (hstore : s.StoresByHash)
    (hanswer : Answered (s.meeting isolates q) (usedSource? q.pluginCode) answer)
    (history : List CodeRequest) (hprints : ∀ q' ∈ history, q.ToldApart q') :
    (s.cachesAfter isolates history).Settled s
      (Reliable (s.meeting isolates q) (usedSource? q.pluginCode) answer) := by
  refine ensures_id.mp (replay_keeps (c := {}) (I := fun d => d.Settled s _) ?_ (settled_empty s _))
  intro call hcall c hc
  obtain ⟨q', hq', rfl⟩ := List.mem_map.mp hcall
  exact getCode_meeting_settled hstore hanswer (hprints q' hq') hc

/-- Calls with other keys and calls of the request itself bring in no index but the one that a new
session works with. -/
theorem working_cachesAfter (hstore : s.StoresByHash)
    (hanswer : Answered (s.meeting isolates q) (usedSource? q.pluginCode) answer)
    (history : List CodeRequest) (hprints : ∀ q' ∈ history, q.ToldApart q')
    {working : Option TokenIndex → TokenIndex}
    (hworking : ∀ kept, working (some (working kept)) = working kept)
    (hindex : ∀ c : Caches Id, c.Settled (s.meeting isolates q)
        (Reliable (s.meeting isolates q) (usedSource? q.pluginCode) answer) →
      Ensures ((s.meeting isolates q).getCode q).run c fun _ d =>
        d.tokenIndexes[q.tokenKey]? = some (working c.tokenIndexes[q.tokenKey]?))
    (hkeys : ∀ q' ∈ history, q' = q ∨ q'.tokenKey ≠ q.tokenKey) :
    working (s.cachesAfter isolates history).tokenIndexes[q.tokenKey]? = working none := by
  -- Under the key there is nothing, or what the request itself has left there.
  have hkept : (s.cachesAfter isolates history).Settled s
        (Reliable (s.meeting isolates q) (usedSource? q.pluginCode) answer)
      ∧ ((s.cachesAfter isolates history).tokenIndexes[q.tokenKey]? = none
        ∨ (s.cachesAfter isolates history).tokenIndexes[q.tokenKey]? = some (working none)) := by
    refine ensures_id.mp (replay_keeps (c := {}) (I := fun d => d.Settled s _
      ∧ (d.tokenIndexes[q.tokenKey]? = none ∨ d.tokenIndexes[q.tokenKey]? = some (working none)))
      ?_ ⟨settled_empty s _, Or.inl (by simp)⟩)
    rintro call hcall c ⟨hc, hkept⟩
    obtain ⟨q', hq', rfl⟩ := List.mem_map.mp hcall
    have hsettled := getCode_meeting_settled hstore hanswer (hprints q' hq') hc
    rcases hkeys q' hq' with rfl | hne
    · refine (ensures_and hsettled (hindex c ((settled_meeting isolates q').mpr hc))).imp ?_
      rintro _ d ⟨hd, hfound⟩
      refine ⟨hd, Or.inr ?_⟩
      rcases hkept with hkept | hkept
      · rw [hfound, hkept]
      · rw [hfound, hkept, hworking]
    · refine (ensures_and hsettled (getCode_other_keys q' hc.sound hne)).imp ?_
      rintro _ d ⟨hd, -, hsame⟩
      exact ⟨hd, hsame ▸ hkept⟩
  rcases hkept.2 with hkept | hkept
  · rw [hkept]
  · rw [hkept, hworking]

/-- The result of a call after some others. All that its history has to do with it is the token
index that is kept under the key of the request. So it is the result of a new session if the same
request is all that came before with the same scale and plugin, and also if the call fails. Where
the index rewrites the styles like that of a new session, the results agree just when the values of
the tokens do, and these are looked up for the same styles. -/
theorem getCode_after_history (hstore : s.StoresByHash)
    (hreplies : ∀ factory isolate, isolates (usedSource? q.pluginCode) = some factory →
      factory.spawn.run = .ok isolate → ∃ reply, isolate.Replies reply)
    (history : List CodeRequest)
    (hprints : ∀ q' ∈ history, q.ToldApart q') :
    let later := s.call isolates q (s.cachesAfter isolates history)
    let fresh := s.call isolates q {}
    later.1 = (s.call isolates q ((s.cachesAfter isolates history).onlyIndex q.tokenKey)).1
      ∧ ((∀ q' ∈ history, q' = q ∨ q'.tokenKey ≠ q.tokenKey) → later.1 = fresh.1)
      ∧ (∀ e, later.1 = .error e ↔ fresh.1 = .error e)
      ∧ ∀ r r₀, later.1 = .ok r → fresh.1 = .ok r₀ →
        ∃ g roots x x₀, s.scene.run = .ok g ∧ g.resolveSelection q.selector = .ok roots
          ∧ later.2.tokenIndexes[q.tokenKey]? = some x
          ∧ fresh.2.tokenIndexes[q.tokenKey]? = some x₀
          ∧ (StyleMap.rewriteTokens (s.collectStyles g (q.treeIn g roots)) x.rewriteTable
              = StyleMap.rewriteTokens (s.collectStyles g (q.treeIn g roots)) x₀.rewriteTable →
            ∃ styles, r.tokens = tokenValues x g.variableTable styles
              ∧ r₀.tokens = tokenValues x₀ g.variableTable styles
              ∧ (r = r₀ ↔ r.tokens = r₀.tokens)) := by
  obtain ⟨answer, hanswer⟩ := exists_answered (s := s.meeting isolates q)
    (usedSource? q.pluginCode) hreplies
  have hafter := (settled_meeting isolates q).mpr
    (settled_cachesAfter hstore hanswer history hprints)
  have honly := settled_onlyIndex hafter q.tokenKey
  have hempty := settled_empty (s.meeting isolates q)
    (Reliable (s.meeting isolates q) (usedSource? q.pluginCode) answer)
  have hstore' : (s.meeting isolates q).StoresByHash := hstore
  -- The same spec on three settled caches: after the history, with its index alone, and fresh.
  rcases getCode_result hstore' (lasting_reliable hanswer) q
    (loadsTrusted_reliable hanswer fun _ => rfl) (fun _ hplugin => hplugin) with
    ⟨e, hfails⟩ | ⟨g, roots, final, build, hscene, hroots, htokens, hresult⟩
  · have hlater : (s.call isolates q (s.cachesAfter isolates history)).1 = .error e :=
      ensures_id.mp (hfails _ hafter)
    have honly : (s.call isolates q _).1 = .error e := ensures_id.mp (hfails _ honly)
    have hfresh : (s.call isolates q {}).1 = .error e := ensures_id.mp (hfails _ hempty)
    dsimp only
    rw [hlater, honly, hfresh]
    exact ⟨rfl, fun _ => rfl, fun _ => Iff.rfl, nofun⟩
  · obtain ⟨hindex, hlater⟩ := ensures_id.mp (hresult _ hafter)
    obtain ⟨-, honly⟩ := ensures_id.mp (hresult _ honly)
    obtain ⟨hindex₀, hfresh⟩ := ensures_id.mp (hresult _ hempty)
    have hlater : (s.call isolates q (s.cachesAfter isolates history)).1 = .ok _ := hlater
    have honly : (s.call isolates q _).1 = .ok _ := honly
    have hfresh : (s.call isolates q {}).1 = .ok _ := hfresh
    rw [Caches.getElem?_onlyIndex] at honly
    refine ⟨hlater.trans honly.symm, ?_, ?_, ?_⟩
    · intro hkeys
      have hworking := working_cachesAfter hstore hanswer history hprints
        (workingIndex_workingIndex answer (g.tokenCandidates (q.treeIn g roots)) q.options)
        (fun c hc => (hresult c hc).imp fun _ _ h => h.1) hkeys
      have hkept₀ : ({} : Caches Id).tokenIndexes[q.tokenKey]? = none := by simp
      rw [hworking] at hlater
      rw [hkept₀] at hfresh
      exact hlater.trans hfresh.symm
    · intro e
      rw [hlater, hfresh]
      exact ⟨nofun, nofun⟩
    · intro r r₀ hr hr₀
      obtain rfl := Except.ok.inj (hlater.symm.trans hr)
      obtain rfl := Except.ok.inj (hfresh.symm.trans hr₀)
      refine ⟨g, roots, _, _, hscene, hroots, hindex, hindex₀, fun hrewrites => ?_⟩
      rw [show s.collectStyles = (s.meeting isolates q).collectStyles from rfl] at hrewrites
      refine ⟨_, htokens _ _, (htokens _ _).trans ?_, ?_⟩
      · rw [hrewrites]
      · refine ⟨congrArg CompileResult.tokens, fun h => ?_⟩
        rw [htokens, htokens] at h
        rw [h, hrewrites]

end History

/-! ### On the scene whose names collide -/

/-- An isolate that gives all variables one name. -/
def namingIsolate (name : String) : Isolate Id where
  load _ _ := .ok [HookKind.transformVariable.name]
  exchange requests := .ok (requests.map fun r => { id := r.id, result := some (.str name) })

theorem replies_namingIsolate (name : String) :
    (namingIsolate name).Replies fun _ _ => some (.str name) := by
  intro hook first payloads
  have hvalue : ∀ requests : List HookRequest, ∀ r ∈ requests, (Channel.outcome hook
      (requests.map fun r => { id := r.id, result := some (.str name) }) r.id).toOption
        = some (.str name) := by
    intro requests r hr
    unfold Channel.outcome
    cases hfound : (requests.map fun r => ({ id := r.id, result := some (.str name) } :
        HookResponse)).reverse.find? (·.id = r.id) with
    | none =>
      have habsent := List.find?_eq_none.mp hfound _
        (List.mem_reverse.mpr (List.mem_map_of_mem hr))
      simp at habsent
    | some response =>
      have hmem := List.mem_reverse.mp (List.mem_of_find?_eq_some hfound)
      obtain ⟨r', -, rfl⟩ := List.mem_map.mp hmem
      rfl
  show (Channel.number hook first payloads).map _ = _
  rw [List.map_congr_left (hvalue _), List.map_const', List.map_const']
  simp [Channel.number]

/-- Code for one node with a plugin, at a scale. -/
def pluginRequest (id : String) (scale : Float32) : CodeRequest :=
  { CodeRequest.ofNode id scale with pluginCode := some "renamed" }

/-- Isolates whose hooks answer all calls with one name. -/
def renamer (_ : Option String) : Option (IsolateFactory Id) :=
  some { spawn := .ok (namingIsolate "renamed") }

/-- A call for the first frame at another scale makes no difference for the second frame, nor does
the same call once more. -/
theorem getCode_after_other_scale :
    ((showing collidingScene).call renamer (pluginRequest "1:2" 1)
        ((showing collidingScene).cachesAfter renamer
          [pluginRequest "1:1" 2, pluginRequest "1:2" 1])).1
      = ((showing collidingScene).call renamer (pluginRequest "1:2" 1) {}).1
    ∧ tokenIn ((showing collidingScene).call renamer (pluginRequest "1:2" 1) {}).1 "renamed"
      = some "8px" := by
  have hstore : (showing collidingScene).StoresByHash := fun _ _ _ => rfl
  have hreplies : ∀ factory isolate, renamer (usedSource? (pluginRequest "1:2" 1).pluginCode)
      = some factory → factory.spawn.run = .ok isolate → ∃ reply, isolate.Replies reply := by
    rintro _ _ ⟨⟩ ⟨⟩
    exact ⟨_, replies_namingIsolate "renamed"⟩
  have hkeys : ∀ q' ∈ [pluginRequest "1:1" 2, pluginRequest "1:2" 1],
      q' = pluginRequest "1:2" 1 ∨ q'.tokenKey ≠ (pluginRequest "1:2" 1).tokenKey := by
    intro q' hq'
    rcases List.mem_pair.mp hq' with rfl | rfl
    · exact Or.inr fun h => absurd (congrArg CacheKey.scaleBits h) (by decide +kernel)
    · exact Or.inl rfl
  have hprints : ∀ q' ∈ [pluginRequest "1:1" 2, pluginRequest "1:2" 1],
      (pluginRequest "1:2" 1).ToldApart q' := by
    intro q' hq' _
    rcases List.mem_pair.mp hq' with rfl | rfl <;> rfl
  have hspec := getCode_after_history hstore hreplies
    [pluginRequest "1:1" 2, pluginRequest "1:2" 1] hprints
  exact ⟨hspec.2.1 hkeys, by decide +kernel⟩

/-- A call for the first frame at the same scale does: the token of the second frame has the value
of the variable that the first one is bound to. -/
theorem getCode_of_colliding_history :
    tokenIn (collidingRun [.ofNode "1:1" 1] (.ofNode "1:2" 1)).1 "space-small" = some "4px"
      ∧ tokenIn (collidingRun [] (.ofNode "1:2" 1)).1 "space-small" = some "8px" := by
  decide +kernel

end Session

end SceneCompiler
