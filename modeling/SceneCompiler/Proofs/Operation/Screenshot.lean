import Mathlib
import SceneCompiler.Operation.Screenshot
import SceneCompiler.Proofs.Session.Ensures
/-!
# When the search for a scale ends

Nothing but its two tests ends the search for the scale of a screenshot. `Searches` is a whole run
of it, with the exports that it makes, of a host whose picture of the node depends on the scale
alone. Halved often enough a scale is zero, and so is the half of it; so a run that has not ended at
one of `screenshotScales` will not end at all, and this is what happens if no picture fits and the
least scale is not positive.

* `compare_eq_lt_iff`: the order of numbers by a key, and with it the order of the scales.
* `chosenScale_of_find?_endsAt`: along halves that go down, the search ends where it should end.
* `searches_iff`: the runs of the search.
* `searchScale_eq`, `getScreenshot_searches`: the exports that an operation makes, and what it
  comes to.
-/

namespace SceneCompiler

/-! ## The order of numbers -/

section Order

open Float.Model

/-- The place of a number among the numbers: the infinite ones are outside of the finite ones, which
are ordered by the exponent first. (Nothing is ordered that is not a number.) -/
def orderKey : UnpackedFloat → ℤ ×ₗ ℤ ×ₗ ℤ
  | .infinity .negative => toLex (-2, toLex (0, 0))
  | .finite .negative mantissa exponent _ => toLex (-1, toLex (-exponent, -mantissa))
  | .zero _ | .notANumber => toLex (0, toLex (0, 0))
  | .finite .positive mantissa exponent _ => toLex (1, toLex (exponent, mantissa))
  | .infinity .positive => toLex (2, toLex (0, 0))

theorem compare_eq_lt_iff (a b : UnpackedFloat) :
    a.compare b = some .lt ↔ a ≠ .notANumber ∧ b ≠ .notANumber ∧ orderKey a < orderKey b := by
  rcases a with (_ | _) | _ | _ | ⟨_ | _, m, e, _⟩ <;>
    rcases b with (_ | _) | _ | _ | ⟨_ | _, m', e', _⟩ <;>
    simp [UnpackedFloat.compare, orderKey, Prod.Lex.toLex_lt_toLex, Ordering.then_eq_lt,
      Ordering.then_eq_gt, compare_lt_iff_lt, compare_gt_iff_gt]
  case infinity.negative.infinity.positive => rfl

theorem single_lt_iff {x y : Float32} :
    x < y ↔ x.toModel.unpack.compare y.toModel.unpack = some .lt := by
  rw [← beq_iff_eq]
  show decide (x.toModel < y.toModel) = true ↔ x.toModel < y.toModel
  exact decide_eq_true_iff

theorem single_lt_irrefl (x : Float32) : ¬ x < x :=
  fun h => lt_irrefl _ ((compare_eq_lt_iff _ _).mp (single_lt_iff.mp h)).2.2

theorem single_lt_trans {x y z : Float32} (hxy : x < y) (hyz : y < z) : x < z := by
  obtain ⟨hx, -, hxy⟩ := (compare_eq_lt_iff _ _).mp (single_lt_iff.mp hxy)
  obtain ⟨-, hz, hyz⟩ := (compare_eq_lt_iff _ _).mp (single_lt_iff.mp hyz)
  exact single_lt_iff.mpr ((compare_eq_lt_iff _ _).mpr ⟨hx, hz, hxy.trans hyz⟩)

instance singleGtTrans : Trans (α := Float32) (· > ·) (· > ·) (· > ·) where
  trans hxy hyz := single_lt_trans hyz hxy

end Order

/-! ## The scales -/

/-- The scales that a search can come to, the largest one first. -/
def screenshotScales : List Float32 :=
  List.iterate (· / 2) screenshotScale (screenshotHalvings + 1)

theorem pairwise_screenshotScales : screenshotScales.Pairwise (· > ·) :=
  List.IsChain.pairwise (by decide +kernel)

theorem isChain_halved_iterate (scale : Float32) (n : Nat) :
    (List.iterate (· / 2) scale n).IsChain fun a b => b = a / 2 := by
  induction n generalizing scale with
  | zero => exact .nil
  | succ n ih =>
    cases n with
    | zero => exact .singleton _
    | succ n => exact .cons_cons rfl (ih (scale / 2))

theorem zero_mem_screenshotScales : 0 ∈ screenshotScales :=
  List.mem_iterate.mpr ⟨screenshotHalvings, by decide, by decide +kernel⟩

theorem eq_zero_or_pos_of_mem {scale : Float32} (h : scale ∈ screenshotScales) :
    scale = 0 ∨ 0 < scale :=
  (by decide +kernel : ∀ scale ∈ screenshotScales, scale = 0 ∨ 0 < scale) scale h

/-- The scales are all that halving can lead to, as the half of zero is zero. -/
theorem half_mem_screenshotScales {scale : Float32} (h : scale ∈ screenshotScales) :
    scale / 2 ∈ screenshotScales := by
  obtain ⟨n, hn, rfl⟩ := List.mem_iterate.mp h
  have hhalf : ((· / 2)^[n] screenshotScale) / 2 = (· / 2)^[n + 1] screenshotScale :=
    (Function.iterate_succ_apply' (· / 2) n screenshotScale).symm
  rw [hhalf]
  -- The last of the scales is zero already.
  rcases Nat.lt_succ_iff_lt_or_eq.mp hn with hlt | rfl
  · exact List.mem_iterate.mpr ⟨n + 1, by omega, rfl⟩
  · rw [show (· / 2)^[screenshotHalvings + 1] screenshotScale = 0 by decide +kernel]
    exact zero_mem_screenshotScales

theorem mem_screenshotScales_of_mem_iterate {scale : Float32} {n : Nat}
    (h : scale ∈ List.iterate (· / 2) screenshotScale n) : scale ∈ screenshotScales := by
  obtain ⟨k, -, rfl⟩ := List.mem_iterate.mp h
  clear h
  induction k with
  | zero => exact List.mem_cons_self
  | succ k ih =>
    rw [Function.iterate_succ_apply']
    exact half_mem_screenshotScales ih

/-! ## The scale that a search should end at -/

namespace Limits

/-- A picture that is small enough. -/
def Fits (limits : Limits) (bytes : ByteArray) : Prop :=
  bytes.size ≤ limits.maxScreenshotBytes

instance (limits : Limits) (bytes : ByteArray) : Decidable (limits.Fits bytes) :=
  inferInstanceAs (Decidable (_ ≤ _))

/-- The scales that are not below the least one, and the first scale in any case. -/
def allowedScales (limits : Limits) : List Float32 → List Float32
  | [] => []
  | first :: rest => first :: rest.filter (¬ · < limits.minScreenshotScale)

/-- The first scale allowed at which the picture fits, or else the last scale allowed. -/
def chosenScale (limits : Limits) (pictures : Float32 → ByteArray) (scales : List Float32) :
    Float32 :=
  let allowed := limits.allowedScales scales
  (allowed.find? fun scale => limits.Fits (pictures scale)).getD (allowed.getLastD screenshotScale)

/-- Without a positive least scale nothing but a picture that fits ends a search. -/
def SearchEnds (limits : Limits) (pictures : Float32 → ByteArray) : Prop :=
  0 < limits.minScreenshotScale ∨ ∃ scale ∈ screenshotScales, limits.Fits (pictures scale)

instance (limits : Limits) (pictures : Float32 → ByteArray) :
    Decidable (limits.SearchEnds pictures) :=
  inferInstanceAs (Decidable (_ ∨ _))

/-- A search ends at a scale if it comes there. -/
def endsAt (limits : Limits) (pictures : Float32 → ByteArray) (scale : Float32) : Bool :=
  Session.settles limits scale (pictures scale)

variable {limits : Limits} {pictures : Float32 → ByteArray} {scale last : Float32}
  {rest scales : List Float32}

theorem endsAt_iff :
    limits.endsAt pictures scale ↔
      limits.Fits (pictures scale) ∨ scale / 2 < limits.minScreenshotScale := by
  simp [endsAt, Session.settles, Fits]

theorem chosenScale_of_fits (h : limits.Fits (pictures scale)) :
    limits.chosenScale pictures (scale :: rest) = scale := by
  simp [chosenScale, allowedScales, h]

theorem chosenScale_of_below (h : ∀ next ∈ rest, next < limits.minScreenshotScale) :
    limits.chosenScale pictures (scale :: rest) = scale := by
  have hallowed : limits.allowedScales (scale :: rest) = [scale] := by
    simpa [allowedScales] using h
  by_cases hfits : limits.Fits (pictures scale) <;> simp [chosenScale, hallowed, hfits]

theorem chosenScale_cons_cons {next : Float32} (hfits : ¬ limits.Fits (pictures scale))
    (hnext : ¬ next < limits.minScreenshotScale) :
    limits.chosenScale pictures (scale :: next :: rest)
      = limits.chosenScale pictures (next :: rest) := by
  simp [chosenScale, allowedScales, hfits, hnext]

/-- Along halves that go down, the first scale that ends the search is the one to be chosen. -/
theorem chosenScale_of_find?_endsAt (hhalved : scales.IsChain fun a b => b = a / 2)
    (hdown : scales.Pairwise (· > ·)) (h : scales.find? (limits.endsAt pictures) = some last) :
    limits.chosenScale pictures scales = last := by
  induction scales with
  | nil => cases h
  | cons scale rest ih =>
    by_cases hend : limits.endsAt pictures scale
    · rw [List.find?_cons_of_pos hend] at h
      obtain rfl := Option.some.inj h
      rcases endsAt_iff.mp hend with hfits | hnext
      · exact chosenScale_of_fits hfits
      · refine chosenScale_of_below fun later hlater => ?_
        -- What comes later is the next scale, or below it.
        cases hhalved with
        | singleton => cases hlater
        | cons_cons heq =>
          rw [← heq] at hnext
          rcases List.mem_cons.mp hlater with rfl | hlater
          · exact hnext
          · exact single_lt_trans (List.rel_of_pairwise_cons hdown.tail hlater) hnext
    · rw [List.find?_cons_of_neg hend] at h
      cases hhalved with
      | singleton => cases h
      | cons_cons heq hhalved =>
        rw [endsAt_iff, not_or, ← heq] at hend
        rw [chosenScale_cons_cons hend.1 hend.2]
        exact ih hhalved hdown.tail h

theorem isSome_find?_endsAt :
    (screenshotScales.find? (limits.endsAt pictures)).isSome ↔ limits.SearchEnds pictures := by
  rw [List.find?_isSome]
  constructor
  · rintro ⟨scale, hscale, hend⟩
    rcases endsAt_iff.mp hend with hfits | hnext
    · exact .inr ⟨scale, hscale, hfits⟩
    · rcases eq_zero_or_pos_of_mem (half_mem_screenshotScales hscale) with hzero | hpos
      · exact .inl (hzero ▸ hnext)
      · exact .inl (single_lt_trans hpos hnext)
  · rintro (hpos | ⟨scale, hscale, hfits⟩)
    · have hzero : (0 : Float32) / 2 = 0 := by decide +kernel
      exact ⟨0, zero_mem_screenshotScales, endsAt_iff.mpr (.inr (hzero ▸ hpos))⟩
    · exact ⟨scale, hscale, endsAt_iff.mpr (.inl hfits)⟩

end Limits

/-! ## Runs of the search -/

/-- A run of the search from a scale on, without a bound: the scales of its exports, and the scale
that it ends at. -/
inductive Searches (limits : Limits) (pictures : Float32 → ByteArray) :
    Float32 → List Float32 → Float32 → Prop
  | ends {scale : Float32} (hend : limits.endsAt pictures scale) :
      Searches limits pictures scale [scale] scale
  | goesOn {scale last : Float32} {exports : List Float32} (hend : ¬ limits.endsAt pictures scale)
      (hrest : Searches limits pictures (scale / 2) exports last) :
      Searches limits pictures scale (scale :: exports) last

/-- The entries of a list down to the first one with a property. -/
def throughFirst (p : Float32 → Bool) (scales : List Float32) : List Float32 :=
  scales.takeWhile (!p ·) ++ (scales.find? p).toList

section ThroughFirst

variable {p : Float32 → Bool} {scale last : Float32} {rest scales : List Float32}

theorem throughFirst_cons_of_pos (h : p scale) : throughFirst p (scale :: rest) = [scale] := by
  simp [throughFirst, h]

theorem throughFirst_cons_of_neg (h : ¬ p scale) :
    throughFirst p (scale :: rest) = scale :: throughFirst p rest := by
  simp [throughFirst, h]

theorem throughFirst_of_forall_not (h : ∀ scale ∈ scales, ¬ p scale) :
    throughFirst p scales = scales := by
  rw [throughFirst, List.find?_eq_none.mpr h, List.takeWhile_eq_self_iff.mpr (by simpa using h),
    Option.toList_none, List.append_nil]

/-- Where numbers go down, those down to the first one with a property are the ones that are not
below it. -/
theorem throughFirst_eq_filter (hdown : scales.Pairwise (· > ·)) (h : scales.find? p = some last) :
    throughFirst p scales = scales.filter (¬ · < last) := by
  obtain ⟨hlast, before, after, rfl, hbefore⟩ := List.find?_eq_some_iff_append.mp h
  obtain ⟨-, hafter, habove⟩ := List.pairwise_append.mp hdown
  have htakes : throughFirst p (before ++ last :: after) = before ++ [last] := by
    rw [throughFirst, h, List.takeWhile_append_of_pos (by simpa using hbefore)]
    simp [hlast]
  have hkept : ∀ scale ∈ before, ¬ scale < last := fun scale hscale hlt =>
    single_lt_irrefl last (single_lt_trans (habove scale hscale last List.mem_cons_self) hlt)
  have hdropped : ∀ scale ∈ after, scale < last := fun scale hscale =>
    List.rel_of_pairwise_cons hafter hscale
  rw [htakes, List.filter_append, List.filter_cons_of_pos (by simpa using single_lt_irrefl last),
    List.filter_eq_self.mpr (by simpa using hkept),
    List.filter_eq_nil_iff.mpr (by simpa using hdropped)]

end ThroughFirst

/-- The scales that are not below a scale. -/
def scalesDownTo (last : Float32) : List Float32 :=
  screenshotScales.filter (¬ · < last)

section Searches

variable {limits : Limits} {pictures : Float32 → ByteArray} {scale last last' : Float32}
  {exports exports' : List Float32}

theorem Searches.unique (h : Searches limits pictures scale exports last)
    (h' : Searches limits pictures scale exports' last') : exports = exports' ∧ last = last' := by
  induction h generalizing exports' with
  | ends hend =>
    cases h' with
    | ends => exact ⟨rfl, rfl⟩
    | goesOn hend' => exact absurd hend hend'
  | goesOn hend _ ih =>
    cases h' with
    | ends hend' => exact absurd hend' hend
    | goesOn _ hrest' =>
      obtain ⟨rfl, rfl⟩ := ih hrest'
      exact ⟨rfl, rfl⟩

/-- A search among the scales stays among them until its end. -/
theorem Searches.exists_endsAt (h : Searches limits pictures scale exports last)
    (hscale : scale ∈ screenshotScales) :
    ∃ scale ∈ screenshotScales, limits.endsAt pictures scale := by
  induction h with
  | ends hend => exact ⟨_, hscale, hend⟩
  | goesOn _ _ ih => exact ih (half_mem_screenshotScales hscale)

/-- A search that ends within so many steps. -/
theorem searches_of_find?_endsAt {n : Nat}
    (h : (List.iterate (· / 2) scale n).find? (limits.endsAt pictures) = some last) :
    Searches limits pictures scale
      (throughFirst (limits.endsAt pictures) (List.iterate (· / 2) scale n)) last := by
  induction n generalizing scale with
  | zero => cases h
  | succ n ih =>
    rw [List.iterate] at h ⊢
    by_cases hend : limits.endsAt pictures scale
    · rw [List.find?_cons_of_pos hend] at h
      rw [throughFirst_cons_of_pos hend, ← Option.some.inj h]
      exact .ends hend
    · rw [List.find?_cons_of_neg hend] at h
      rw [throughFirst_cons_of_neg hend]
      exact .goesOn hend (ih h)

/-- The first of the scales that ends a search is the one to be chosen. -/
theorem chosenScale_screenshotScales
    (h : screenshotScales.find? (limits.endsAt pictures) = some last) :
    limits.chosenScale pictures screenshotScales = last
      ∧ throughFirst (limits.endsAt pictures) screenshotScales = scalesDownTo last :=
  ⟨Limits.chosenScale_of_find?_endsAt (isChain_halved_iterate _ _) pairwise_screenshotScales h,
    throughFirst_eq_filter pairwise_screenshotScales h⟩

/-- Whether a search ends, and what exports it then makes to which end. -/
theorem searches_iff :
    Searches limits pictures screenshotScale exports last ↔
      limits.SearchEnds pictures ∧ last = limits.chosenScale pictures screenshotScales
        ∧ exports = scalesDownTo last := by
  constructor
  · intro h
    -- Some scale ends this search, so the first such scale does, and there is one search only.
    have hsome := List.find?_isSome.mpr (h.exists_endsAt List.mem_cons_self)
    obtain ⟨first, hfirst⟩ := Option.isSome_iff_exists.mp hsome
    obtain ⟨hchosen, hexports⟩ := chosenScale_screenshotScales hfirst
    obtain ⟨rfl, rfl⟩ := h.unique (searches_of_find?_endsAt hfirst)
    exact ⟨Limits.isSome_find?_endsAt.mp hsome, hchosen.symm, hexports⟩
  · rintro ⟨hends, rfl, rfl⟩
    obtain ⟨first, hfirst⟩ := Option.isSome_iff_exists.mp (Limits.isSome_find?_endsAt.mpr hends)
    obtain ⟨hchosen, hexports⟩ := chosenScale_screenshotScales hfirst
    rw [hchosen, ← hexports]
    exact searches_of_find?_endsAt hfirst

end Searches

/-! ## The operation -/

theorem Answers.eq_map {m : Type → Type} [Monad m] [LawfulMonad m] {α : Type} {x : m α} {a : α}
    (h : Answers x a) : x = (fun _ => a) <$> x := by
  obtain ⟨y, rfl⟩ := h
  rw [← comp_map]
  congr 1
  funext o
  exact o.2

namespace Session

variable {m : Type → Type} [Monad m] {s : Session m} {id : NodeId}

/-- Exports of a node, one after the other. -/
def exportAt (s : Session m) (id : NodeId) (scales : List Float32) : SessionM m Unit :=
  scales.forM fun scale => do let _ ← s.exportPng id scale

/-- What a search comes to that ends at a scale, or not at all. -/
def searched (id : NodeId) (pictures : Float32 → ByteArray) :
    Option Float32 → SessionM m (Float32 × ByteArray)
  | some last => return (last, pictures last)
  | none => throw (.noScaleFits id)

variable [LawfulMonad m]

/-- An export whose answer is known. -/
theorem exportPng_bind {scale : Float32} {bytes : ByteArray}
    (h : Answers (s.exportPng id scale) (.ok bytes)) {α : Type}
    (f : Except String ByteArray → SessionM m α) :
    (liftM (s.exportPng id scale) >>= f) = s.exportAt id [scale] >>= fun _ => f (.ok bytes) := by
  rw [h.eq_map]
  simp [exportAt]

theorem exportAt_cons (scale : Float32) (rest : List Float32) :
    s.exportAt id (scale :: rest) = s.exportAt id [scale] >>= fun _ => s.exportAt id rest := by
  simp [exportAt]

variable {pictures : Float32 → ByteArray}

/-- One export of a search, and what it comes to then. -/
theorem searchScale_step
    (hhost : ∀ scale, Answers (s.exportPng id scale) (.ok (pictures scale))) (n : Nat)
    (scale : Float32) :
    s.searchScale id n scale = s.exportAt id [scale] >>= fun _ =>
      if s.limits.endsAt pictures scale then searched id pictures (some scale)
      else match n with
        | 0 => searched id pictures none
        | n + 1 => s.searchScale id n (scale / 2) := by
  rw [searchScale.eq_def]
  dsimp only
  rw [exportPng_bind (hhost scale)]
  rfl

/-- A search makes the exports down to the first scale that ends it. -/
theorem searchScale_eq
    (hhost : ∀ scale, Answers (s.exportPng id scale) (.ok (pictures scale))) (n : Nat)
    (scale : Float32) :
    s.searchScale id n scale = (do
      let scales := List.iterate (· / 2) scale (n + 1)
      s.exportAt id (throughFirst (s.limits.endsAt pictures) scales)
      searched id pictures (scales.find? (s.limits.endsAt pictures))) := by
  induction n generalizing scale with
  | zero =>
    rw [searchScale_step hhost]
    dsimp only [List.iterate]
    by_cases hend : s.limits.endsAt pictures scale
    · rw [if_pos hend, throughFirst_cons_of_pos hend, List.find?_cons_of_pos hend]
    · rw [if_neg hend, throughFirst_cons_of_neg hend, List.find?_cons_of_neg hend]
      rfl
  | succ n ih =>
    rw [searchScale_step hhost, List.iterate]
    dsimp only
    by_cases hend : s.limits.endsAt pictures scale
    · rw [if_pos hend, throughFirst_cons_of_pos hend, List.find?_cons_of_pos hend]
    · rw [if_neg hend, throughFirst_cons_of_neg hend, List.find?_cons_of_neg hend,
        exportAt_cons scale (throughFirst _ _), bind_assoc, ih]

/-- A search that ends. -/
theorem searchScale_of_searchEnds
    (hhost : ∀ scale, Answers (s.exportPng id scale) (.ok (pictures scale)))
    (hends : s.limits.SearchEnds pictures) :
    s.searchScale id screenshotHalvings screenshotScale = (do
      let last := s.limits.chosenScale pictures screenshotScales
      s.exportAt id (scalesDownTo last)
      return (last, pictures last)) := by
  obtain ⟨last, hlast⟩ := Option.isSome_iff_exists.mp (Limits.isSome_find?_endsAt.mpr hends)
  obtain ⟨hchosen, hexports⟩ := chosenScale_screenshotScales hlast
  rw [searchScale_eq hhost, hchosen]
  dsimp only
  rw [← screenshotScales, hexports, hlast, searched]

/-- A search without an end: however many exports are made, none ends it. -/
theorem searchScale_of_not_searchEnds
    (hhost : ∀ scale, Answers (s.exportPng id scale) (.ok (pictures scale)))
    (hends : ¬ s.limits.SearchEnds pictures) (n : Nat) :
    s.searchScale id n screenshotScale = (do
      s.exportAt id (List.iterate (· / 2) screenshotScale (n + 1))
      throw (.noScaleFits id)) := by
  have hnever : ∀ scale ∈ List.iterate (· / 2) screenshotScale (n + 1),
      ¬ s.limits.endsAt pictures scale := fun scale hscale hend =>
    hends (Limits.isSome_find?_endsAt.mp (List.find?_isSome.mpr
      ⟨scale, mem_screenshotScales_of_mem_iterate hscale, hend⟩))
  rw [searchScale_eq hhost]
  dsimp only
  rw [throughFirst_of_forall_not hnever, List.find?_eq_none.mpr hnever, searched]

/-- With a host whose pictures of a node depend on the scale alone, the search for the scale of a
screenshot ends exactly if the least scale is positive or a picture fits. Its exports are then those
at the scales down to the one to be chosen, whose picture is the result; otherwise it goes on beyond
every number of exports, for which `SessionError.noScaleFits` stands. -/
theorem getScreenshot_searches (s : Session m) {pictures : NodeId → Float32 → ByteArray}
    (hhost : ∀ id scale, Answers (s.exportPng id scale) (.ok (pictures id scale)))
    (selector : Option (List NodeId)) :
    (∀ id exports last, Searches s.limits (pictures id) screenshotScale exports last ↔
        s.limits.SearchEnds (pictures id)
          ∧ last = s.limits.chosenScale (pictures id) screenshotScales
          ∧ exports = scalesDownTo last)
      ∧ (∀ id, ¬ s.limits.SearchEnds (pictures id) → ∀ n,
        s.searchScale id n screenshotScale = (do
          s.exportAt id (List.iterate (· / 2) screenshotScale (n + 1))
          throw (.noScaleFits id)))
      ∧ s.getScreenshot selector = (do
        let (g, id :: _) ← s.currentSelection selector | throw .nothingSelected
        if s.limits.SearchEnds (pictures id) then
          let last := s.limits.chosenScale (pictures id) screenshotScales
          s.exportAt id (scalesDownTo last)
          s.uploadScreenshot ((g.find? id).map (·.bounds)) last (pictures id last)
        else
          s.exportAt id screenshotScales
          throw (.noScaleFits id)) := by
  refine ⟨fun id exports last => searches_iff,
    fun id hends => searchScale_of_not_searchEnds (hhost id) hends, ?_⟩
  unfold getScreenshot
  congr 1
  funext (g, ids)
  cases ids with
  | nil => rfl
  | cons id others =>
    dsimp only
    split
    case isTrue hends =>
      rw [searchScale_of_searchEnds (hhost id) hends]
      dsimp only
      simp only [bind_assoc, pure_bind]
    case isFalse hends =>
      rw [searchScale_of_not_searchEnds (hhost id) hends]
      simp only [bind_assoc]
      refine bind_congr fun _ => ?_
      -- Nothing is uploaded after the failure.
      apply ExceptT.ext
      rw [ExceptT.run_bind, ExceptT.run_throw, pure_bind]
      rfl

/-- A host that has a picture of every node and nothing else. -/
def picturing (limits : Limits) (picture : Float32 → ByteArray) : Session Id where
  scene := .error "no scene"
  styleSnapshot _ := .error "no declarations"
  exportSvg _ := .error "no pictures"
  exportPng _ scale := .ok (picture scale)
  imageBytes _ := .ok none
  store _ _ _ := .error "no store"
  limits

/-- Eight bytes, or half of it at the small scales. -/
def shrinkingPicture (scale : Float32) : ByteArray :=
  if scale < 1 then ⟨Array.replicate 4 0⟩ else ⟨Array.replicate 8 0⟩

theorem getScreenshot_searches_shrinkingPicture :
    let s := picturing { maxScreenshotBytes := 5 } shrinkingPicture
    (∀ id scale, Answers (s.exportPng id scale) (.ok (shrinkingPicture scale)))
      ∧ Searches s.limits shrinkingPicture screenshotScale [2, 1, 0.5] 0.5 := by
  intro s
  have hhost : ∀ id scale, Answers (s.exportPng id scale) (.ok (shrinkingPicture scale)) :=
    fun _ _ => answers_id.mpr rfl
  refine ⟨hhost, ((getScreenshot_searches s hhost none).1 ⟨"1:1"⟩ _ _).mpr ⟨?_, ?_, ?_⟩⟩ <;>
    decide +kernel

/-- Pictures of four bytes, of which one is allowed, at scales down to zero. -/
theorem not_searches_without_leastScale :
    ¬ ∃ exports last,
      Searches { maxScreenshotBytes := 1, minScreenshotScale := 0 }
        (fun _ => ⟨#[0x89, 0x50, 0x4e, 0x47]⟩) screenshotScale exports last := by
  rintro ⟨exports, last, h⟩
  exact absurd (searches_iff.mp h).1 (by decide +kernel)

end Session

end SceneCompiler
