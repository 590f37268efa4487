import Mathlib
import SceneCompiler.Proofs.Session.Steps
/-!
# Two runs side by side

That two operations have the same results cannot be said of single outcomes where the collaborators
act in an arbitrary monad. It can be said of the two computations: they are coupled if both are seen
in one computation of pairs. What is known of the pairs is a relation between the outcomes.

* `Coupled.bind`: coupled computations one after the other.
* `Coupled.map_eq`: where a relation makes two readings equal, the readings of the computations are.
* `Traceless.coupled`: computations that leave no trace are coupled with nothing.
* `pictureSteps_alongside`: pictures and texts do not depend on plugins and token indexes.
-/

namespace SceneCompiler

variable {m : Type → Type} [Monad m] {α β γ δ : Type}

/-! ## Coupled computations -/

/-- Both computations are readings of one computation of related pairs. -/
def Coupled (R : α → β → Prop) (x : m α) (y : m β) : Prop :=
  ∃ z : m {p : α × β // R p.1 p.2}, (fun p => p.1.1) <$> z = x ∧ (fun p => p.1.2) <$> z = y

variable [LawfulMonad m] {R : α → β → Prop} {S : γ → δ → Prop}

theorem coupled_pure {a : α} {b : β} (h : R a b) : Coupled R (pure a : m α) (pure b) := by
  refine ⟨pure ⟨(a, b), h⟩, ?_, ?_⟩
  · rw [map_pure]
  · rw [map_pure]

/-- A computation is coupled with a reading of it. -/
theorem coupled_map {x : m α} {f : α → β} (h : ∀ a, R a (f a)) : Coupled R x (f <$> x) := by
  refine ⟨(fun a => ⟨(a, f a), h a⟩) <$> x, ?_, ?_⟩
  · rw [Functor.map_map]
    exact id_map x
  · rw [Functor.map_map]

theorem coupled_refl (x : m α) : Coupled (· = ·) x x := by
  have h := coupled_map (R := (· = ·)) (x := x) (f := id) fun _ => rfl
  rwa [id_map] at h

theorem Coupled.imp {x : m α} {y : m β} (h : Coupled R x y) {R' : α → β → Prop}
    (himp : ∀ a b, R a b → R' a b) : Coupled R' x y := by
  obtain ⟨z, rfl, rfl⟩ := h
  refine ⟨(fun p => ⟨p.1, himp _ _ p.2⟩) <$> z, ?_, ?_⟩
  · rw [Functor.map_map]
  · rw [Functor.map_map]

theorem Coupled.bind {x : m α} {y : m β} {f : α → m γ} {g : β → m δ} (h : Coupled R x y)
    (hfg : ∀ a b, R a b → Coupled S (f a) (g b)) : Coupled S (x >>= f) (y >>= g) := by
  obtain ⟨z, rfl, rfl⟩ := h
  -- Each pair has its own joint computation of what comes next; they are run after `z`.
  choose w hleft hright using hfg
  refine ⟨z >>= fun p => w p.1.1 p.1.2 p.2, ?_, ?_⟩
  · rw [map_bind, bind_map_left]
    exact bind_congr fun p => hleft _ _ p.2
  · rw [map_bind, bind_map_left]
    exact bind_congr fun p => hright _ _ p.2

/-- Readings that agree on all related pairs are the same computation. -/
theorem Coupled.map_eq {x : m α} {y : m β} (h : Coupled R x y) {f : α → γ} {g : β → γ}
    (hfg : ∀ a b, R a b → f a = g b) : f <$> x = g <$> y := by
  obtain ⟨z, rfl, rfl⟩ := h
  rw [Functor.map_map, Functor.map_map]
  exact map_congr fun p => hfg _ _ p.2

/-! ## Computations without a trace -/

/-- All outcomes are good, and whatever comes after the computation is the same without it. -/
structure Traceless (good : α → Prop) (x : m α) : Prop where
  outcomes : SatisfiesM good x
  dropped : ∀ (β : Type) (y : m β), (x >>= fun _ => y) = y

theorem traceless_pure {good : α → Prop} {a : α} (h : good a) : Traceless good (pure a : m α) where
  outcomes := SatisfiesM.pure h
  dropped _ _ := pure_bind _ _

theorem Traceless.imp {good good' : α → Prop} {x : m α} (h : Traceless good x)
    (himp : ∀ a, good a → good' a) : Traceless good' x where
  outcomes := SatisfiesM.imp h.outcomes fun ha => himp _ ha
  dropped := h.dropped

theorem Traceless.bind {good : α → Prop} {good' : γ → Prop} {x : m α} {f : α → m γ}
    (hx : Traceless good x) (hf : ∀ a, good a → Traceless good' (f a)) :
    Traceless good' (x >>= f) where
  outcomes := SatisfiesM.bind hx.outcomes fun a ha => (hf a ha).outcomes
  dropped β y := by
    obtain ⟨z, hz⟩ := hx.outcomes
    have hdropped := hx.dropped β y
    rw [← hz, bind_map_left] at hdropped
    rw [bind_assoc, ← hz, bind_map_left]
    refine Eq.trans ?_ hdropped
    exact bind_congr fun a => (hf a.1 a.2).dropped β y

/-- A computation that goes on in the same way after every good outcome can be left out. -/
theorem Traceless.coupled {good : α → Prop} {x : m α} (hx : Traceless good x) {f : α → m γ}
    {y : m δ} (h : ∀ a, good a → Coupled S (f a) y) : Coupled S (x >>= f) y := by
  obtain ⟨z, hz⟩ := hx.outcomes
  choose w hleft hright using h
  refine ⟨z >>= fun a => w a.1 a.2, ?_, ?_⟩
  · rw [map_bind, ← hz, bind_map_left]
    exact bind_congr fun a => hleft _ a.2
  · -- All outcomes lead to the same computation, so it makes no difference which one it was.
    have hdropped := hx.dropped δ y
    rw [← hz, bind_map_left] at hdropped
    rw [map_bind]
    refine Eq.trans ?_ hdropped
    exact bind_congr fun a => hright _ a.2

/-! ## Steps on two caches -/

/-- The caches agree in uploads, image bytes and favicons. -/
structure Caches.SamePictures (c d : Caches m) : Prop where
  uploads : c.uploads = d.uploads
  images : c.images = d.images
  favicons : c.favicons = d.favicons

omit [Monad m] [LawfulMonad m] in
theorem Caches.SamePictures.refl (c : Caches m) : c.SamePictures c := ⟨rfl, rfl, rfl⟩

omit [Monad m] [LawfulMonad m] in
theorem Caches.SamePictures.symm {c d : Caches m} (h : c.SamePictures d) : d.SamePictures c :=
  ⟨h.uploads.symm, h.images.symm, h.favicons.symm⟩

omit [Monad m] [LawfulMonad m] in
theorem Caches.SamePictures.trans {c d e : Caches m} (h : c.SamePictures d)
    (h' : d.SamePictures e) : c.SamePictures e :=
  ⟨h.uploads.trans h'.uploads, h.images.trans h'.images, h.favicons.trans h'.favicons⟩

/-- Steps that are coupled on all caches which agree in pictures, and leave such caches behind. -/
def Alongside (R : α → β → Prop) (x : CacheM m α) (y : CacheM m β) : Prop :=
  ∀ c d : Caches m, c.SamePictures d →
    Coupled (fun o o' => R o.1 o'.1 ∧ o.2.SamePictures o'.2) (x.run c) (y.run d)

theorem alongside_pure {a : α} {b : β} (h : R a b) :
    Alongside R (pure a : CacheM m α) (pure b) := by
  intro c d hcd
  exact coupled_pure ⟨h, hcd⟩

theorem Alongside.bind {x : CacheM m α} {y : CacheM m β} {f : α → CacheM m γ} {g : β → CacheM m δ}
    (h : Alongside R x y) (hfg : ∀ a b, R a b → Alongside S (f a) (g b)) :
    Alongside S (x >>= f) (y >>= g) := by
  intro c d hcd
  rw [StateT.run_bind, StateT.run_bind]
  exact (h c d hcd).bind fun o o' ho => hfg o.1 o'.1 ho.1 o.2 o'.2 ho.2

theorem alongside_lift {x : m α} {y : m β} (h : Coupled R x y) :
    Alongside R (liftM x : CacheM m α) (liftM y) := by
  intro c d hcd
  show Coupled _ ((monadLift x : CacheM m α).run c) ((monadLift y : CacheM m β).run d)
  rw [StateT.run_monadLift, StateT.run_monadLift]
  exact h.bind fun a b hab => coupled_pure ⟨hab, hcd⟩

theorem alongside_modify {f g : Caches m → Caches m} (hf : ∀ c : Caches m, c.SamePictures (f c))
    (hg : ∀ c : Caches m, c.SamePictures (g c)) :
    Alongside (fun _ _ => True) (modify f : CacheM m PUnit) (modify g) := by
  intro c d hcd
  rw [StateT.run_modify, StateT.run_modify]
  exact coupled_pure ⟨trivial, (hf c).symm.trans (hcd.trans (hg d))⟩

theorem sequential_alongside :
    Sequential (m := m) fun x => Alongside (· = ·) x x where
  pure _ := alongside_pure rfl
  bind hx hf := hx.bind fun a _ hab => hab ▸ hf a

theorem alongside_getOrRun {κ : Type} [Ord κ] [Std.TransOrd κ] (x : InFlight κ α) (key : κ)
    {compute : CacheM m α} (h : Alongside (· = ·) compute compute) :
    Alongside (· = ·) (x.getOrRun key compute) (x.getOrRun key compute) := by
  unfold InFlight.getOrRun
  dsimp only
  split
  · exact alongside_pure rfl
  · refine h.bind fun a b hab => ?_
    subst hab
    exact alongside_pure rfl

theorem alongside_get_bind {f : Caches m → CacheM m γ} {g : Caches m → CacheM m δ}
    (h : ∀ c d : Caches m, c.SamePictures d → Alongside S (f c) (g d)) :
    Alongside S (get >>= f) (get >>= g) := by
  intro c d hcd
  rw [StateT.run_bind, StateT.run_bind, StateT.run_get, StateT.run_get, pure_bind, pure_bind]
  exact h c d hcd c d hcd

theorem alongside_set_return {c' d' : Caches m} (h : c'.SamePictures d') {a : α} {b : β}
    (hab : R a b) :
    Alongside R (do set c'; return a : CacheM m α) (do set d'; return b) := by
  intro c d _
  rw [StateT.run_bind, StateT.run_bind, StateT.run_set, StateT.run_set, pure_bind, pure_bind]
  exact coupled_pure ⟨hab, h⟩

/-! ## Operations, which may fail -/

/-- Two outcomes with related values, or one failure twice. -/
inductive Matching (R : α → β → Prop) : Except SessionError α → Except SessionError β → Prop where
  | ok {a : α} {b : β} : R a b → Matching R (.ok a) (.ok b)
  | error (e : SessionError) : Matching R (.error e) (.error e)

omit [Monad m] [LawfulMonad m] in
theorem Matching.eq {o o' : Except SessionError α} (h : Matching (· = ·) o o') : o = o' := by
  cases h with
  | ok heq => rw [heq]
  | error e => rfl

/-- One operation after the other. What is known of the caches in between is `P`. -/
theorem Coupled.run_bind {x : SessionM m α} {y : SessionM m β} {f : α → SessionM m γ}
    {g : β → SessionM m δ} {c d : Caches m} {P : Caches m → Caches m → Prop}
    (h : Coupled (fun o o' => Matching R o.1 o'.1 ∧ P o.2 o'.2) (x.run.run c) (y.run.run d))
    (hfg : ∀ a b, R a b → ∀ c' d', P c' d' →
      Coupled (fun o o' => Matching S o.1 o'.1) ((f a).run.run c') ((g b).run.run d')) :
    Coupled (fun o o' => Matching S o.1 o'.1) ((x >>= f).run.run c) ((y >>= g).run.run d) := by
  rw [ExceptT.run_bind, ExceptT.run_bind, StateT.run_bind, StateT.run_bind]
  refine h.bind ?_
  rintro ⟨o, c'⟩ ⟨o', d'⟩ ⟨hmatching, hcaches⟩
  cases hmatching with
  | ok hab => exact hfg _ _ hab c' d' hcaches
  | error e => exact coupled_pure (m := m) (.error e)

/-- Steps that do not fail, as operations. -/
theorem coupled_run_steps {x : CacheM m α} {y : CacheM m β} {c d : Caches m}
    (h : Coupled (fun o o' => R o.1 o'.1) (x.run c) (y.run d)) :
    Coupled (fun o o' => Matching R o.1 o'.1) ((liftM x : SessionM m α).run.run c)
      ((liftM y : SessionM m β).run.run d) := by
  show Coupled _ ((ExceptT.lift x).run.run c) ((ExceptT.lift y).run.run d)
  rw [ExceptT.run_lift, ExceptT.run_lift, StateT.run_map, StateT.run_map, ← bind_pure_comp,
    ← bind_pure_comp]
  exact h.bind fun o o' ho => coupled_pure (.ok ho)

/-! ## Pictures -/

/-- Pictures and texts are the same on caches that agree in pictures. -/
theorem pictureSteps_alongside (s : Session m) :
    PictureSteps s fun x => Alongside (· = ·) x x where
  toSequential := sequential_alongside
  exportSvg id := alongside_lift (coupled_refl _)
  image hash := by
    refine alongside_get_bind fun c d hcd => ?_
    -- The cells are the same, so the computation runs on both sides or on none.
    rw [hcd.images]
    refine Alongside.bind (alongside_getOrRun _ _ ?_) fun o o' ho => ?_
    · exact (alongside_lift (coupled_refl _)).bind fun a b hab => alongside_pure (by rw [hab])
    · rw [ho]
      refine alongside_set_return ?_ rfl
      exact ⟨hcd.uploads, rfl, hcd.favicons⟩
  upload hash mediaType bytes := by
    refine alongside_get_bind fun c d hcd => ?_
    rw [hcd.uploads]
    refine Alongside.bind (alongside_getOrRun _ _ ?_) fun o o' ho => ?_
    · exact (alongside_lift (coupled_refl _)).bind fun a b hab => alongside_pure (by rw [hab])
    · rw [ho]
      refine alongside_set_return ?_ rfl
      exact ⟨rfl, hcd.images, hcd.favicons⟩
  favicon domain := by
    unfold Session.favicon
    cases s.faviconSource with
    | none => exact alongside_pure rfl
    | some lookup =>
      refine alongside_get_bind fun c d hcd => ?_
      rw [hcd.favicons]
      refine Alongside.bind (alongside_getOrRun _ _ ?_) fun o o' ho => ?_
      · exact (alongside_lift (coupled_refl _)).bind fun a b hab => alongside_pure (by rw [hab])
      · rw [ho]
        refine alongside_set_return ?_ rfl
        exact ⟨hcd.uploads, hcd.images, rfl⟩

end SceneCompiler
