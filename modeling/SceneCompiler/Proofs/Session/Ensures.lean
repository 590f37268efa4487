import Mathlib
import SceneCompiler.Session.Caches
/-!
# Outcomes of steps

Sessions act in an arbitrary monad, so what a step comes to is not a value that one could name. What
can be said is that all its outcomes satisfy a condition: `Ensures` says so of steps that start with
given caches, and `Answers` of a collaborator that always answers the same.

* `Ensures.bind`: steps one after the other.
* `Ensures.mapM_forall`: steps for every entry of a list.
* `Ensures.run_bind`: operations one after the other, of which the first may fail.
-/

namespace SceneCompiler

variable {m : Type → Type} [Monad m] {α β : Type}

/-- Every call gives the answer. -/
def Answers (x : m α) (a : α) : Prop :=
  SatisfiesM (· = a) x

/-- Every outcome of the steps, and of the caches that they started with, satisfies the
condition. -/
def Ensures (x : CacheM m α) (c : Caches m) (p : α → Caches m → Prop) : Prop :=
  SatisfiesM (fun o => p o.1 o.2) (x.run c)

/-- Without effects there is one outcome. -/
theorem ensures_id {x : CacheM Id α} {c : Caches Id} {p : α → Caches Id → Prop} :
    Ensures x c p ↔ p (x.run c).1 (x.run c).2 :=
  SatisfiesM_Id_eq

theorem answers_id {x a : α} : Answers (m := Id) x a ↔ x = a :=
  SatisfiesM_Id_eq

variable [LawfulMonad m] {c : Caches m} {p : α → Caches m → Prop} {q : β → Caches m → Prop}

/-! ## Single steps -/

theorem answers_pure (a : α) : Answers (pure a : m α) a :=
  SatisfiesM.pure rfl

theorem Answers.bind {x : m α} {a : α} {f : α → m β} {b : β} (hx : Answers x a)
    (hf : Answers (f a) b) : Answers (x >>= f) b := by
  refine SatisfiesM.bind hx ?_
  rintro _ rfl
  exact hf

/-- A pass over a list in which every step has a known answer. -/
theorem Answers.foldlM {f : α → β → m α} {value : α → β → α} {l : List β}
    (hf : ∀ b ∈ l, ∀ a, Answers (f a b) (value a b)) (a : α) :
    Answers (l.foldlM f a) (l.foldl value a) := by
  induction l generalizing a with
  | nil => exact answers_pure a
  | cons b rest ih =>
    rw [List.foldlM_cons]
    exact (hf b (by simp) a).bind (ih (fun b' hb' => hf b' (List.mem_cons_of_mem _ hb')) _)

theorem Ensures.imp {x : CacheM m α} {p' : α → Caches m → Prop} (hx : Ensures x c p)
    (h : ∀ a d, p a d → p' a d) : Ensures x c p' :=
  SatisfiesM.imp hx fun hp => h _ _ hp

theorem ensures_trivial (x : CacheM m α) : Ensures x c fun _ _ => True :=
  SatisfiesM.trivial

theorem ensures_pure {a : α} (h : p a c) : Ensures (pure a) c p := by
  unfold Ensures
  rw [StateT.run_pure]
  exact SatisfiesM.pure h

theorem Ensures.bind {x : CacheM m α} {f : α → CacheM m β} (hx : Ensures x c p)
    (hf : ∀ a d, p a d → Ensures (f a) d q) : Ensures (x >>= f) c q := by
  unfold Ensures
  rw [StateT.run_bind]
  exact SatisfiesM.bind hx fun o ho => hf o.1 o.2 ho

/-- Steps that look at the caches first. -/
theorem ensures_get_bind {f : Caches m → CacheM m β} (h : Ensures (f c) c q) :
    Ensures (get >>= f) c q := by
  unfold Ensures
  rw [StateT.run_bind, StateT.run_get, pure_bind]
  exact h

theorem ensures_set {p : PUnit → Caches m → Prop} {d : Caches m} (h : p ⟨⟩ d) :
    Ensures (set d) c p := by
  unfold Ensures
  rw [StateT.run_set]
  exact SatisfiesM.pure h

/-- Steps that replace the caches and have a result. -/
theorem ensures_set_return {a : α} {d : Caches m} (h : p a d) :
    Ensures (do set d; return a) c p :=
  (ensures_set (p := fun _ e => e = d) rfl).bind fun _ _ he => ensures_pure (he ▸ h)

theorem ensures_modify {p : PUnit → Caches m → Prop} {f : Caches m → Caches m} (h : p ⟨⟩ (f c)) :
    Ensures (modify f) c p := by
  unfold Ensures
  rw [StateT.run_modify]
  exact SatisfiesM.pure h

/-- A collaborator's answer leaves the caches alone. -/
theorem ensures_lift {x : m α} (h : SatisfiesM (fun a => p a c) x) :
    Ensures (liftM x : CacheM m α) c p := by
  unfold Ensures
  rw [show (liftM x : CacheM m α) = monadLift x from rfl, StateT.run_monadLift]
  refine SatisfiesM.bind h ?_
  intro a ha
  exact SatisfiesM.pure ha

/-- Whatever a collaborator answers, the caches stay as they are. -/
theorem ensures_lift_any (x : m α) : Ensures (liftM x : CacheM m α) c fun _ d => d = c :=
  ensures_lift (.of_true fun _ => rfl)

/-- A known answer of a collaborator. -/
theorem ensures_lift_answer {x : m α} {a : α} (hx : Answers x a) :
    Ensures (liftM x : CacheM m α) c fun b d => b = a ∧ d = c :=
  ensures_lift (SatisfiesM.imp hx fun h => ⟨h, rfl⟩)

/-- A shared computation runs unless its cell is filled. -/
theorem ensures_getOrRun {κ : Type} [Ord κ] [Std.TransOrd κ] {x : InFlight κ α} {key : κ}
    {compute : CacheM m α} {p : α × InFlight κ α → Caches m → Prop}
    (hfilled : ∀ a, (x.join key).2.value? (x.join key).1 = some a → p (a, (x.join key).2) c)
    (hcompute : (x.join key).2.value? (x.join key).1 = none →
      Ensures compute c fun a d => p (a, (x.join key).2.fill (x.join key).1 a) d) :
    Ensures (x.getOrRun key compute) c p := by
  unfold InFlight.getOrRun
  dsimp only
  split
  · next a ha => exact ensures_pure (hfilled a ha)
  · next ha => exact (hcompute ha).bind fun a d hd => ensures_pure hd

/-! ## Steps for every entry of a list -/

/-- What every step keeps of its entry, all steps keep of the list. -/
theorem Ensures.mapM_map {γ : Type} {before : β → γ} {after : α → γ} {f : β → CacheM m α}
    (hf : ∀ b d, Ensures (f b) d fun a _ => after a = before b) (l : List β) :
    Ensures (l.mapM f) c fun as _ => as.map after = l.map before := by
  induction l generalizing c with
  | nil => exact ensures_pure rfl
  | cons b rest ih =>
    rw [List.mapM_cons]
    refine (hf b c).bind fun a d ha => ?_
    refine ih.bind fun as e has => ?_
    exact ensures_pure (by rw [List.map_cons, List.map_cons, ha, has])

/-- A pass over a list, and what holds after each start of it. -/
theorem Ensures.foldlM {f : α → β → CacheM m α} {P : List β → α → Prop}
    (hf : ∀ done b a d, P done a → Ensures (f a b) d fun a' _ => P (done ++ [b]) a') {l : List β}
    {a : α} (ha : P [] a) : Ensures (l.foldlM f a) c fun a' _ => P l a' := by
  suffices h : ∀ (rest done : List β) (a : α) (c : Caches m), P done a →
      Ensures (rest.foldlM f a) c fun a' _ => P (done ++ rest) a' from h l [] a c ha
  intro rest
  induction rest with
  | nil =>
    intro done a c ha
    exact ensures_pure (by rwa [List.append_nil])
  | cons b rest ih =>
    intro done a c ha
    rw [List.foldlM_cons]
    refine (hf done b a c ha).bind fun a' d ha' => ?_
    have hrest := ih (done ++ [b]) a' d ha'
    rwa [List.append_assoc, List.singleton_append] at hrest

/-! ## Operations, which may fail -/

section Operations

variable {r : Except SessionError α → Caches m → Prop} {w : Except SessionError β → Caches m → Prop}

theorem ensures_run_pure {a : α} (h : r (.ok a) c) : Ensures (pure a : SessionM m α).run c r :=
  ensures_pure h

theorem ensures_run_throw {e : SessionError} (h : r (.error e) c) :
    Ensures (throw e : SessionM m α).run c r :=
  ensures_pure h

/-- An outcome that is there already. -/
theorem ensures_run_ofExcept {outcome : Except SessionError α} (h : r outcome c) :
    Ensures (MonadExcept.ofExcept outcome : SessionM m α).run c r := by
  cases outcome with
  | ok a => exact ensures_run_pure h
  | error e => exact ensures_run_throw h

/-- The second operation runs only if the first one succeeds; else its failure is the outcome. -/
theorem Ensures.run_bind {x : SessionM m α} {f : α → SessionM m β} (hx : Ensures x.run c r)
    (hok : ∀ a d, r (.ok a) d → Ensures (f a).run d w)
    (herror : ∀ e d, r (.error e) d → w (.error e) d) : Ensures (x >>= f).run c w := by
  rw [ExceptT.run_bind]
  refine Ensures.bind hx fun outcome d ho => ?_
  cases outcome with
  | ok a => exact hok a d ho
  | error e => exact ensures_pure (herror e d ho)

/-- Nothing runs after a failure. -/
theorem ensures_run_throw_bind {e : SessionError} {f : α → SessionM m β} (h : w (.error e) c) :
    Ensures (throw e >>= f).run c w :=
  Ensures.run_bind (r := fun outcome d => outcome = .error e ∧ c = d) (ensures_run_throw ⟨rfl, rfl⟩)
    nofun (by rintro _ _ ⟨⟨⟩, rfl⟩; exact h)

/-- An operation that looks at the caches first. -/
theorem ensures_run_get_bind {f : Caches m → SessionM m β} (h : Ensures (f c).run c w) :
    Ensures (get >>= f).run c w := by
  rw [ExceptT.run_bind, show (get : SessionM m (Caches m)) = ExceptT.lift get from rfl,
    ExceptT.run_lift, bind_map_left]
  exact ensures_get_bind h

/-- Steps that do not fail, as an operation. -/
theorem ensures_run_steps {x : CacheM m α} (h : Ensures x c fun a d => r (.ok a) d) :
    Ensures (liftM x : SessionM m α).run c r := by
  show Ensures (ExceptT.lift x).run c r
  rw [ExceptT.run_lift]
  exact Ensures.bind h fun a d hd => ensures_pure hd

/-- A collaborator's answer, as an operation. -/
theorem ensures_run_lift {x : m α} (h : SatisfiesM (fun a => r (.ok a) c) x) :
    Ensures (liftM x : SessionM m α).run c r :=
  ensures_run_steps (ensures_lift h)

end Operations

end SceneCompiler
