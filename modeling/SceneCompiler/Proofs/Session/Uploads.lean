import Mathlib
import SceneCompiler.Proofs.Session.Ensures
/-!
# Interleaved uploads

`Session.upload` waits twice: for the store, and for the value of its cell. Calls that overlap
therefore interleave at three places: a call enters and joins the cell of its hash, a call that
stores gets the answer of the store, and a call resumes with the value of its cell. A failed upload
is evicted by every call that resumes with it, and by hash, so that a call that resumes late may
evict the cell of a retry.

* `upload_steps`: a call of `Session.upload` alone is a run of these steps.
* `singleFlight_of_reached`: there is one upload of a hash at a time, and none after a success, as
  long as no call evicts the cell of a retry. Once one does, it is over with both.
-/

namespace SceneCompiler

/-! ## Steps of overlapping calls -/

/-- Where a call stands. -/
inductive UploadPhase where
  /-- It was the first in its cell, and the store has not answered yet. -/
  | storing
  | waiting
  | returned (address : Option String)
deriving DecidableEq, Repr

structure UploadCall where
  hash : String
  cell : Nat
  phase : UploadPhase
deriving DecidableEq, Repr

/-- The cache of uploads, and all calls in the order in which they entered. -/
structure Uploads where
  cache : InFlight String (Option String) := {}
  calls : List UploadCall := []

inductive UploadStep where
  | enter (hash : String)
  /-- The store answers a call. -/
  | answer (i : Nat) (outcome : Except String String)
  | resume (i : Nat)

namespace Uploads

/-- Whether a call stores for the cell. -/
def stores (u : Uploads) (cell : Nat) : Bool :=
  u.calls.any fun call => call.cell = cell && call.phase = .storing

/-- A call as it enters. It goes to the store if its cell is empty and no other call does. -/
def entering (u : Uploads) (hash : String) : UploadCall :=
  let (cell, cache) := u.cache.join hash
  { hash, cell
    phase := if (cache.value? cell).isSome || u.stores cell then .waiting else .storing }

def enter (u : Uploads) (hash : String) : Uploads :=
  { cache := (u.cache.join hash).2, calls := u.calls ++ [u.entering hash] }

def answer? (u : Uploads) (i : Nat) (outcome : Except String String) : Option Uploads := do
  let call ← u.calls[i]?.filter (·.phase = .storing)
  return { cache := u.cache.fill call.cell outcome.toOption
           calls := u.calls.set i { call with phase := .waiting } }

/-- Failures are not kept. -/
def dropFailure (x : InFlight String (Option String)) (hash : String) (address : Option String) :
    InFlight String (Option String) :=
  if address.isSome then x else (x.evict hash).2

def resume? (u : Uploads) (i : Nat) : Option Uploads := do
  let call ← u.calls[i]?.filter (·.phase = .waiting)
  let address ← u.cache.value? call.cell
  return { cache := dropFailure u.cache call.hash address
           calls := u.calls.set i { call with phase := .returned address } }

def step? (u : Uploads) : UploadStep → Option Uploads
  | .enter hash => some (u.enter hash)
  | .answer i outcome => u.answer? i outcome
  | .resume i => u.resume? i

def run? (u : Uploads) (steps : List UploadStep) : Option Uploads :=
  steps.foldlM step? u

/-! ### What a step can do -/

variable {u v : Uploads} {hash : String} {i : Nat}

theorem answer?_eq_some {outcome : Except String String} :
    u.answer? i outcome = some v ↔ ∃ call, u.calls[i]? = some call ∧ call.phase = .storing ∧
      v = { cache := u.cache.fill call.cell outcome.toOption
            calls := u.calls.set i { call with phase := .waiting } } := by
  simp [answer?, Option.bind_eq_some_iff, and_assoc, eq_comm (b := v)]

theorem resume?_eq_some :
    u.resume? i = some v ↔ ∃ call address, u.calls[i]? = some call ∧ call.phase = .waiting ∧
      u.cache.value? call.cell = some address ∧
      v = { cache := dropFailure u.cache call.hash address
            calls := u.calls.set i { call with phase := .returned address } } := by
  simp [resume?, Option.bind_eq_some_iff, and_assoc, eq_comm (b := v)]

/-! ## Cells of overlapping calls -/

/-- Calls of a hash join its cell, and every cell belongs to one hash. -/
structure Placed (u : Uploads) : Prop where
  joined : ∀ call ∈ u.calls, call.cell < u.cache.next
  opened : ∀ (hash : String) (cell : Nat), u.cache.current[hash]? = some cell →
    ∃ call ∈ u.calls, call.hash = hash ∧ call.cell = cell
  apart : ∀ a ∈ u.calls, ∀ b ∈ u.calls, a.cell = b.cell → a.hash = b.hash

/-- What calls and cells have to do with each other in every interleaving: one call stores for a
cell until it is filled, and the others return what it was filled with. -/
structure Coherent (u : Uploads) : Prop extends Placed u where
  filled : ∀ cell, u.cache.next ≤ cell → u.cache.value? cell = none
  storing : ∀ call ∈ u.calls, call.phase = .storing → u.cache.value? call.cell = none
  alone : ∀ (i j : Nat) (a b : UploadCall), u.calls[i]? = some a → u.calls[j]? = some b →
    a.phase = .storing → b.phase = .storing → a.cell = b.cell → i = j
  stored : ∀ call ∈ u.calls, u.cache.value? call.cell = none →
    ∃ b ∈ u.calls, b.cell = call.cell ∧ b.phase = .storing
  returned : ∀ call ∈ u.calls, ∀ address, call.phase = .returned address →
    u.cache.value? call.cell = some address

theorem coherent_empty : Coherent {} where
  joined := by simp
  opened := by simp
  apart := by simp
  filled := by simp [InFlight.value?]
  storing := by simp
  alone := by simp
  stored := by simp
  returned := by simp

theorem stores_eq_true {cell : Nat} :
    u.stores cell = true ↔ ∃ call ∈ u.calls, call.cell = cell ∧ call.phase = .storing := by
  simp [stores]

/-! ### Cells after a step -/

section Cells

variable {x : InFlight String (Option String)}

theorem join_of_none (h : x.current[hash]? = none) : x.join hash =
    (x.next, { x with current := x.current.insert hash x.next, next := x.next + 1 }) := by
  simp only [InFlight.join, h]

theorem join_of_some {cell : Nat} (h : x.current[hash]? = some cell) :
    x.join hash = (cell, x) := by
  simp only [InFlight.join, h]

theorem value?_fill (cell cell' : Nat) (value : Option String) :
    (x.fill cell value).value? cell' = if cell = cell' then some value else x.value? cell' := by
  simp [InFlight.fill, InFlight.value?, Std.ExtTreeMap.getElem?_insert]

@[simp] theorem next_dropFailure (address : Option String) :
    (dropFailure x hash address).next = x.next := by
  unfold dropFailure
  split <;> rfl

@[simp] theorem value?_dropFailure (address : Option String) (cell : Nat) :
    (dropFailure x hash address).value? cell = x.value? cell := by
  unfold dropFailure
  split <;> rfl

theorem current_dropFailure (address : Option String) (hash' : String) :
    (dropFailure x hash address).current[hash']? =
      if address = none ∧ hash = hash' then none else x.current[hash']? := by
  cases address with
  | some url => simp [dropFailure]
  | none => simp [dropFailure, InFlight.evict, Std.ExtTreeMap.getElem?_erase]

end Cells

/-! ### Entering -/

/-- A hash without a cell gets a new one, and the call goes to the store. -/
theorem Coherent.entering_of_none (hu : u.Coherent) (hnone : u.cache.current[hash]? = none) :
    u.entering hash = ⟨hash, u.cache.next, .storing⟩ := by
  have hempty : u.cache.values[u.cache.next]? = none := hu.filled _ le_rfl
  have hstores : u.stores u.cache.next = false := by
    rw [Bool.eq_false_iff, ne_eq, stores_eq_true]
    rintro ⟨call, hmem, hcell, -⟩
    have := hu.joined call hmem
    omega
  simp [entering, join_of_none hnone, InFlight.value?, hempty, hstores]

/-- The cell of a hash is filled, or a call stores for it. -/
theorem Coherent.entering_of_some (hu : u.Coherent) {cell : Nat}
    (hcell : u.cache.current[hash]? = some cell) :
    u.entering hash = ⟨hash, cell, .waiting⟩ := by
  have hbusy : ((u.cache.value? cell).isSome || u.stores cell) = true := by
    cases hvalue : u.cache.value? cell with
    | some value => rfl
    | none =>
      obtain ⟨call, hmem, -, rfl⟩ := hu.opened hash cell hcell
      exact stores_eq_true.mpr (hu.stored call hmem hvalue)
  simp only [entering, join_of_some hcell, hbusy, if_true]

theorem Coherent.enter (hu : u.Coherent) (hash : String) : (u.enter hash).Coherent := by
  have ⟨⟨joined, opened, apart⟩, filled, storing, alone, stored, returned⟩ := hu
  unfold Uploads.enter
  cases hcurrent : u.cache.current[hash]? with
  | some cell =>
    -- The cells stay as they are, and the new call waits in one of them.
    obtain ⟨b, hb, rfl, rfl⟩ := opened hash cell hcurrent
    rw [hu.entering_of_some hcurrent, join_of_some hcurrent]
    exact {
      joined := by grind
      filled := filled
      opened := by grind
      apart := by grind
      storing := by grind
      alone := by grind
      stored := by grind
      returned := by grind }
  | none =>
    -- The new call is the only one in the new cell.
    rw [hu.entering_of_none hcurrent, join_of_none hcurrent]
    have hempty : u.cache.value? u.cache.next = none := filled _ le_rfl
    exact {
      joined := by grind
      filled := fun cell hcell => filled cell (Nat.le_of_succ_le hcell)
      opened := by
        intro hash' cell h
        rw [Std.ExtTreeMap.getElem?_insert] at h
        split at h
        · next heq =>
          exact ⟨_, List.mem_append_right _ (List.mem_singleton_self _),
            Std.compare_eq_iff_eq.mp heq, Option.some.inj h⟩
        · obtain ⟨call, hmem, hcall⟩ := opened hash' cell h
          exact ⟨call, List.mem_append_left _ hmem, hcall⟩
      apart := by grind
      storing := by
        intro call hmem hphase
        show u.cache.value? call.cell = none
        grind
      alone := by grind
      stored := by
        intro call hmem hvalue
        have hvalue : u.cache.value? call.cell = none := hvalue
        grind
      returned := by
        intro call hmem address hphase
        show u.cache.value? call.cell = some address
        grind }

/-! ### Other steps -/

variable {call b : UploadCall} {phase : UploadPhase}

theorem mem_set_phase (hcall : u.calls[i]? = some call) :
    b ∈ u.calls.set i { call with phase } ↔
      b = { call with phase } ∨ ∃ j, j ≠ i ∧ u.calls[j]? = some b := by
  have hi : i < u.calls.length := (List.getElem?_eq_some_iff.mp hcall).1
  simp only [List.mem_iff_getElem?, List.getElem?_set]
  constructor
  · rintro ⟨j, hj⟩
    split at hj
    · exact .inl (by grind)
    · exact .inr ⟨j, by omega, hj⟩
  · rintro (rfl | ⟨j, hji, hj⟩)
    · exact ⟨i, by simp [hi]⟩
    · exact ⟨j, by rw [if_neg (by omega)]; exact hj⟩

/-- Other calls stay as they are. -/
theorem mem_set_of_ne (hcall : u.calls[i]? = some call) (hb : b ∈ u.calls) (hne : b ≠ call) :
    b ∈ u.calls.set i { call with phase } := by
  obtain ⟨j, hj⟩ := List.mem_iff_getElem?.mp hb
  refine (mem_set_phase hcall).mpr (.inr ⟨j, ?_, hj⟩)
  rintro rfl
  exact hne (Option.some.inj (hj.symm.trans hcall))

/-- A call in another phase has the hash and the cell of the same call. -/
theorem exists_of_mem_set (hcall : u.calls[i]? = some call)
    (hb : b ∈ u.calls.set i { call with phase }) :
    ∃ a ∈ u.calls, a.hash = b.hash ∧ a.cell = b.cell := by
  rcases (mem_set_phase hcall).mp hb with rfl | ⟨j, -, hj⟩
  · exact ⟨call, List.mem_of_getElem? hcall, rfl, rfl⟩
  · exact ⟨b, List.mem_of_getElem? hj, rfl, rfl⟩

/-- Steps after the first one leave calls in their cells. -/
theorem Placed.set (hu : u.Placed) (hcall : u.calls[i]? = some call)
    {x : InFlight String (Option String)} (hnext : x.next = u.cache.next)
    (hcurrent : ∀ (hash : String) (cell : Nat), x.current[hash]? = some cell →
      u.cache.current[hash]? = some cell) (phase : UploadPhase) :
    Placed { cache := x, calls := u.calls.set i { call with phase } } where
  joined := by
    intro b hb
    obtain ⟨a, ha, -, hcell⟩ := exists_of_mem_set hcall hb
    have hlt : a.cell < u.cache.next := hu.joined a ha
    rw [← hcell, hnext]
    exact hlt
  opened := by
    intro hash cell h
    obtain ⟨b, hb, hplace⟩ := hu.opened hash cell (hcurrent hash cell h)
    by_cases hsame : b = call
    · subst hsame
      exact ⟨_, (mem_set_phase hcall).mpr (.inl rfl), hplace⟩
    · exact ⟨b, mem_set_of_ne hcall hb hsame, hplace⟩
  apart := by
    intro b hb c hc heq
    obtain ⟨b', hb', hhash, hcell⟩ := exists_of_mem_set hcall hb
    obtain ⟨c', hc', hhash', hcell'⟩ := exists_of_mem_set hcall hc
    have hsame : b'.hash = c'.hash := hu.apart b' hb' c' hc' (by omega)
    rw [← hhash, ← hhash', hsame]

/-- The store answers the only call that stores for its cell. -/
theorem Coherent.answer (hu : u.Coherent) (hcall : u.calls[i]? = some call)
    (hphase : call.phase = .storing) (value : Option String) :
    Coherent { cache := u.cache.fill call.cell value
               calls := u.calls.set i { call with phase := .waiting } } where
  toPlaced :=
    hu.toPlaced.set (x := u.cache.fill call.cell value) hcall rfl (fun _ _ h => h) .waiting
  filled := by
    intro cell hcell
    have hcell : u.cache.next ≤ cell := hcell
    have hold : call.cell < u.cache.next := hu.joined call (List.mem_of_getElem? hcall)
    rw [value?_fill, if_neg (by omega)]
    exact hu.filled cell hcell
  storing := by
    intro b hb hstoring
    rcases (mem_set_phase hcall).mp hb with rfl | ⟨j, hji, hj⟩
    · cases hstoring
    · have hne : call.cell ≠ b.cell := fun heq =>
        hji (hu.alone i j call b hcall hj hphase hstoring heq).symm
      rw [value?_fill, if_neg hne]
      exact hu.storing b (List.mem_of_getElem? hj) hstoring
  alone := by
    have := hu.alone
    grind
  stored := by
    intro b hb hvalue
    obtain ⟨a, ha, -, hcell⟩ := exists_of_mem_set hcall hb
    rw [value?_fill] at hvalue
    split at hvalue
    · cases hvalue
    · next hne =>
      -- The call that stores for this cell is another one.
      obtain ⟨c, hc, hcell', hstoring⟩ := hu.stored a ha (hcell ▸ hvalue)
      have hother : c ≠ call := by
        rintro rfl
        exact hne (hcell'.trans hcell)
      exact ⟨c, mem_set_of_ne hcall hc hother, hcell'.trans hcell, hstoring⟩
  returned := by
    intro b hb address hreturned
    rcases (mem_set_phase hcall).mp hb with rfl | ⟨j, -, hj⟩
    · cases hreturned
    · have hvalue := hu.returned b (List.mem_of_getElem? hj) address hreturned
      have hempty := hu.storing call (List.mem_of_getElem? hcall) hphase
      have hne : call.cell ≠ b.cell := by
        intro heq
        rw [heq, hvalue] at hempty
        cases hempty
      rw [value?_fill, if_neg hne]
      exact hvalue

/-- A call returns the value of its cell; the cells keep their values, also when one is dropped. -/
theorem Coherent.resume (hu : u.Coherent) (hcall : u.calls[i]? = some call)
    {address : Option String}
    (hvalue : u.cache.value? call.cell = some address) :
    Coherent { cache := dropFailure u.cache call.hash address
               calls := u.calls.set i { call with phase := .returned address } } where
  toPlaced := by
    refine hu.toPlaced.set hcall (next_dropFailure address) ?_ _
    intro hash cell h
    rw [current_dropFailure] at h
    split at h
    · cases h
    · exact h
  filled := by
    intro cell hcell
    rw [next_dropFailure] at hcell
    rw [value?_dropFailure]
    exact hu.filled cell hcell
  storing := by
    intro b hb hstoring
    rw [value?_dropFailure]
    rcases (mem_set_phase hcall).mp hb with rfl | ⟨j, -, hj⟩
    · cases hstoring
    · exact hu.storing b (List.mem_of_getElem? hj) hstoring
  alone := by
    have := hu.alone
    grind
  stored := by
    intro b hb hempty
    obtain ⟨a, ha, -, hcell⟩ := exists_of_mem_set hcall hb
    rw [value?_dropFailure, ← hcell] at hempty
    obtain ⟨c, hc, hcell', hstoring⟩ := hu.stored a ha hempty
    have hother : c ≠ call := by
      rintro rfl
      rw [← hcell', hvalue] at hempty
      cases hempty
    exact ⟨c, mem_set_of_ne hcall hc hother, hcell'.trans hcell, hstoring⟩
  returned := by
    intro b hb address' hreturned
    rw [value?_dropFailure]
    rcases (mem_set_phase hcall).mp hb with rfl | ⟨j, -, hj⟩
    · cases hreturned
      exact hvalue
    · exact hu.returned b (List.mem_of_getElem? hj) address' hreturned

theorem Coherent.step (hu : u.Coherent) {step : UploadStep} (h : u.step? step = some v) :
    v.Coherent := by
  cases step with
  | enter hash =>
    obtain rfl := Option.some.inj h
    exact hu.enter hash
  | answer i outcome =>
    obtain ⟨call, hcall, hphase, rfl⟩ := answer?_eq_some.mp h
    exact hu.answer hcall hphase _
  | resume i =>
    obtain ⟨call, address, hcall, hphase, hvalue, rfl⟩ := resume?_eq_some.mp h
    exact hu.resume hcall hvalue

/-! ## One upload at a time -/

/-- There is one upload of the hash at a time, and no call goes to the store after a success. -/
structure SingleFlight (u : Uploads) (hash : String) : Prop where
  one : ∀ (i j : Nat) (a b : UploadCall), u.calls[i]? = some a → u.calls[j]? = some b →
    a.hash = hash → b.hash = hash → a.phase = .storing → b.phase = .storing → i = j
  kept : (∃ call ∈ u.calls, call.hash = hash ∧ ∃ url, call.phase = .returned (some url)) →
    (u.entering hash).phase ≠ .storing

/-- A call resumes with a failure and drops the cell of its hash, but the upload of that cell has
not failed: it is under way, or has succeeded. -/
def Spoils (u : Uploads) (hash : String) (step : UploadStep) : Prop :=
  ∃ i call cell, step = .resume i ∧ u.calls[i]? = some call ∧ call.phase = .waiting ∧
    call.hash = hash ∧ u.cache.value? call.cell = some none ∧
    u.cache.current[hash]? = some cell ∧ u.cache.value? cell ≠ some none

/-- The states that are reached by steps which do not do so. -/
inductive Reached (hash : String) : Uploads → Prop
  | start : Reached hash {}
  | step {u v : Uploads} (step : UploadStep) :
      Reached hash u → ¬ u.Spoils hash step → u.step? step = some v → Reached hash v

/-- A call of the hash that has not failed is in the current cell. -/
def Held (u : Uploads) (hash : String) : Prop :=
  ∀ call ∈ u.calls, call.hash = hash → u.cache.value? call.cell ≠ some none →
    u.cache.current[hash]? = some call.cell

theorem Reached.coherent (h : Reached hash u) : u.Coherent := by
  induction h with
  | start => exact coherent_empty
  | step step _ _ hstep ih => exact ih.step hstep

theorem Held.step (hu : u.Held hash) (hcoherent : u.Coherent) {step : UploadStep}
    (hspoils : ¬ u.Spoils hash step) (h : u.step? step = some v) : v.Held hash := by
  cases step with
  | enter hash' =>
    obtain rfl := Option.some.inj h
    intro call hmem hhash hvalue
    unfold Uploads.enter at hmem hvalue ⊢
    cases hcurrent : u.cache.current[hash']? with
    | some cell =>
      rw [hcoherent.entering_of_some hcurrent, join_of_some hcurrent] at *
      rcases List.mem_append.mp hmem with hold | hnew
      · exact hu call hold hhash hvalue
      · obtain rfl := List.mem_singleton.mp hnew
        exact hhash ▸ hcurrent
    | none =>
      rw [hcoherent.entering_of_none hcurrent, join_of_none hcurrent] at *
      rcases List.mem_append.mp hmem with hold | hnew
      · -- An earlier call of the hash has a current cell, so it is another hash that enters.
        have hcell : u.cache.current[hash]? = some call.cell := hu call hold hhash hvalue
        have hne : hash' ≠ hash := by
          rintro rfl
          rw [hcurrent] at hcell
          cases hcell
        simpa [Std.ExtTreeMap.getElem?_insert, hne] using hcell
      · obtain rfl := List.mem_singleton.mp hnew
        show (u.cache.current.insert hash' u.cache.next)[hash]? = some u.cache.next
        obtain rfl : hash' = hash := hhash
        exact Std.ExtTreeMap.getElem?_insert_self
  | answer i outcome =>
    obtain ⟨call, hcall, hphase, rfl⟩ := answer?_eq_some.mp h
    intro b hb hhash hvalue
    obtain ⟨a, ha, hhash', hcell⟩ := exists_of_mem_set hcall hb
    rw [value?_fill] at hvalue
    have hopen : u.cache.value? a.cell ≠ some none := by
      have := hcoherent.storing call (List.mem_of_getElem? hcall) hphase
      grind
    rw [← hcell]
    exact hu a ha (hhash'.trans hhash) hopen
  | resume i =>
    obtain ⟨call, address, hcall, hphase, hvalue, rfl⟩ := resume?_eq_some.mp h
    intro b hb hhash hopen
    obtain ⟨a, ha, hhash', hcell⟩ := exists_of_mem_set hcall hb
    rw [value?_dropFailure, ← hcell] at hopen
    have hcurrent := hu a ha (hhash'.trans hhash) hopen
    rw [current_dropFailure, if_neg, hcurrent, hcell]
    rintro ⟨rfl, hdropped⟩
    exact hspoils ⟨i, call, a.cell, rfl, hcall, hphase, hdropped, hvalue, hcurrent, hopen⟩

theorem Reached.held (h : Reached hash u) : u.Held hash := by
  induction h with
  | start =>
    intro call hmem
    cases hmem
  | step step hreached hspoils hstep ih => exact ih.step hreached.coherent hspoils hstep

theorem Held.singleFlight (hu : u.Held hash) (hcoherent : u.Coherent) : u.SingleFlight hash where
  one := by
    intro i j a b hi hj hahash hbhash hastoring hbstoring
    -- Both calls are in the current cell, for which only one call stores.
    have haempty := hcoherent.storing a (List.mem_of_getElem? hi) hastoring
    have hbempty := hcoherent.storing b (List.mem_of_getElem? hj) hbstoring
    have ha := hu a (List.mem_of_getElem? hi) hahash (by simp [haempty])
    have hb := hu b (List.mem_of_getElem? hj) hbhash (by simp [hbempty])
    have hcell : a.cell = b.cell := Option.some.inj (ha.symm.trans hb)
    exact hcoherent.alone i j a b hi hj hastoring hbstoring hcell
  kept := by
    rintro ⟨call, hmem, hhash, url, hreturned⟩
    have hvalue := hcoherent.returned call hmem _ hreturned
    have hcurrent := hu call hmem hhash (by simp [hvalue])
    rw [hcoherent.entering_of_some hcurrent]
    nofun

/-! ## Evicting the cell of a retry -/

/-- After the cell of a hash is evicted, the next call of the hash goes to the store, also while
another one stores. -/
theorem not_singleFlight_of_storing (hu : u.Coherent) (hcurrent : u.cache.current[hash]? = none)
    (hmem : b ∈ u.calls) (hhash : b.hash = hash) (hstoring : b.phase = .storing) :
    ¬ (u.enter hash).SingleFlight hash := by
  intro hsingle
  obtain ⟨j, hj⟩ := List.mem_iff_getElem?.mp hmem
  have hlt : j < u.calls.length := (List.getElem?_eq_some_iff.mp hj).1
  have hold : (u.enter hash).calls[j]? = some b := by
    unfold Uploads.enter
    rw [List.getElem?_append_left hlt, hj]
  have hnew : (u.enter hash).calls[u.calls.length]? = some ⟨hash, u.cache.next, .storing⟩ := by
    unfold Uploads.enter
    rw [hu.entering_of_none hcurrent, List.getElem?_concat_length]
  have heq := hsingle.one j u.calls.length b _ hold hnew hhash rfl hstoring rfl
  omega

theorem not_singleFlight_of_returned (hu : u.Coherent) (hcurrent : u.cache.current[hash]? = none)
    (hmem : b ∈ u.calls) (hhash : b.hash = hash) {url : String}
    (hreturned : b.phase = .returned (some url)) : ¬ u.SingleFlight hash := by
  intro hsingle
  refine hsingle.kept ⟨b, hmem, hhash, url, hreturned⟩ ?_
  rw [hu.entering_of_none hcurrent]

/-- With the cell of an upload that has not failed evicted, some steps lead to a second upload at
the same time, or after the success. -/
theorem exists_not_singleFlight (hu : u.Coherent) (hcurrent : u.cache.current[hash]? = none)
    (hmem : b ∈ u.calls) (hhash : b.hash = hash) (hopen : u.cache.value? b.cell ≠ some none) :
    ∃ steps v, u.run? steps = some v ∧ ¬ v.SingleFlight hash := by
  cases hvalue : u.cache.value? b.cell with
  | none =>
    obtain ⟨c, hc, hcell, hstoring⟩ := hu.stored b hmem hvalue
    have hchash : c.hash = hash := (hu.apart c hc b hmem hcell).trans hhash
    exact ⟨[.enter hash], u.enter hash, rfl,
      not_singleFlight_of_storing hu hcurrent hc hchash hstoring⟩
  | some address =>
    cases address with
    | none => exact absurd hvalue hopen
    | some url =>
      cases hphase : b.phase with
      | storing =>
        have := hu.storing b hmem hphase
        rw [hvalue] at this
        cases this
      | returned address =>
        have := hu.returned b hmem address hphase
        obtain rfl := Option.some.inj (hvalue.symm.trans this)
        exact ⟨[], u, rfl, not_singleFlight_of_returned hu hcurrent hmem hhash hphase⟩
      | waiting =>
        -- The call returns the address first.
        obtain ⟨j, hj⟩ := List.mem_iff_getElem?.mp hmem
        have hresume := resume?_eq_some.mpr ⟨b, some url, hj, hphase, hvalue, rfl⟩
        have hrun : u.run? [.resume j] = u.resume? j := by simp [run?, step?]
        refine ⟨[.resume j], _, hrun.trans hresume, ?_⟩
        refine not_singleFlight_of_returned (hu.resume hj hvalue) ?_
          ((mem_set_phase hj).mpr (.inl rfl)) hhash rfl
        rw [current_dropFailure, if_neg nofun]
        exact hcurrent

/-- Whatever the store answers and in whatever order calls enter and resume: there is one upload of
a hash at a time, and none after a success, until a call drops a cell whose upload has not failed.
Every such step has a continuation that breaks this. -/
theorem singleFlight_of_reached (hash : String) (u : Uploads) (h : Reached hash u) :
    u.SingleFlight hash ∧ ∀ step, u.Spoils hash step →
      ∃ steps v, u.run? (step :: steps) = some v ∧ ¬ v.SingleFlight hash := by
  refine ⟨h.held.singleFlight h.coherent, ?_⟩
  rintro _ ⟨i, call, cell, rfl, hcall, hphase, rfl, hvalue, hcurrent, hopen⟩
  have hresume := resume?_eq_some.mpr ⟨call, none, hcall, hphase, hvalue, rfl⟩
  have hcoherent := h.coherent.resume hcall hvalue
  -- Some call joined the cell that is evicted.
  obtain ⟨b, hmem, hhash, rfl⟩ := h.coherent.opened call.hash cell hcurrent
  have hother : b ≠ call := by
    rintro rfl
    exact hopen hvalue
  obtain ⟨steps, v, hrun, hv⟩ := exists_not_singleFlight hcoherent
    (by rw [current_dropFailure, if_pos ⟨rfl, rfl⟩]) (mem_set_of_ne hcall hmem hother) hhash
    (by rw [value?_dropFailure]; exact hopen)
  exact ⟨steps, v, by simpa [run?, step?, hresume] using hrun, hv⟩

/-- A retry is under way, and a call that waited for the first upload has not resumed yet: what it
will do spoils the retry. -/
theorem retry_singleFlight : ∃ u : Uploads,
    u.calls = [⟨"a", 0, .returned none⟩, ⟨"a", 0, .waiting⟩, ⟨"a", 1, .storing⟩] ∧
      Reached "a" u ∧ u.Spoils "a" (.resume 1) ∧ u.SingleFlight "a" ∧
      ∃ steps v, u.run? (.resume 1 :: steps) = some v ∧ ¬ v.SingleFlight "a" := by
  have h₁ : Reached "a" (enter {} "a") := Reached.start.step (.enter "a") nofun rfl
  have h₂ := h₁.step (.enter "a") nofun rfl
  have h₃ := h₂.step (.answer 0 (.error "offline")) nofun rfl
  -- The first call evicts its own cell.
  have h₄ := h₃.step (.resume 0) (by
    rintro ⟨i, call, cell, hstep, hcall, hphase, hhash, hvalue, hcurrent, hopen⟩
    obtain rfl : 0 = cell := Option.some.inj (Eq.trans (by decide +kernel) hcurrent)
    exact hopen (by decide +kernel)) rfl
  have h₅ := h₄.step (.enter "a") nofun rfl
  obtain ⟨u, hreached, hcalls, hfailed, hcurrent, hopen⟩ : ∃ u : Uploads, Reached "a" u ∧
      u.calls = [⟨"a", 0, .returned none⟩, ⟨"a", 0, .waiting⟩, ⟨"a", 1, .storing⟩] ∧
      u.cache.value? 0 = some none ∧ u.cache.current["a"]? = some 1 ∧
      u.cache.value? 1 ≠ some none :=
    ⟨_, h₅, by decide +kernel, by decide +kernel, by decide +kernel, by decide +kernel⟩
  have hspoils : u.Spoils "a" (.resume 1) :=
    ⟨1, ⟨"a", 0, .waiting⟩, 1, rfl, by rw [hcalls]; rfl, rfl, rfl, hfailed, hcurrent, hopen⟩
  have hflight := singleFlight_of_reached "a" u hreached
  exact ⟨u, hcalls, hreached, hspoils, hflight.1, hflight.2 _ hspoils⟩

/-- A call resumes with the failure of the first upload while its retry is under way, and evicts the
retry: then the next call stores at the same time as the retry, or after its success. -/
theorem lateEviction_not_singleFlight :
    (∃ u, run? {} [.enter "a", .enter "a", .answer 0 (.error "offline"), .resume 0, .enter "a",
        .resume 1, .enter "a"] = some u ∧
      u.calls = [⟨"a", 0, .returned none⟩, ⟨"a", 0, .returned none⟩, ⟨"a", 1, .storing⟩,
        ⟨"a", 2, .storing⟩] ∧ ¬ u.SingleFlight "a") ∧
    (∃ u, run? {} [.enter "a", .enter "a", .answer 0 (.error "offline"), .resume 0, .enter "a",
        .answer 2 (.ok "/a"), .resume 2, .resume 1] = some u ∧
      u.calls = [⟨"a", 0, .returned none⟩, ⟨"a", 0, .returned none⟩,
        ⟨"a", 1, .returned (some "/a")⟩] ∧
      u.entering "a" = ⟨"a", 2, .storing⟩ ∧ ¬ u.SingleFlight "a") := by
  constructor
  · refine ⟨_, rfl, ?hcalls, ?_⟩
    case hcalls => decide +kernel
    intro h
    have := h.one 2 3 ⟨"a", 1, .storing⟩ ⟨"a", 2, .storing⟩ (by decide +kernel) (by decide +kernel)
      rfl rfl rfl rfl
    omega
  · refine ⟨_, rfl, ?hcalls, ?hentering, ?_⟩
    case hcalls => decide +kernel
    case hentering => decide +kernel
    intro h
    exact h.kept ⟨⟨"a", 1, .returned (some "/a")⟩, by decide +kernel, rfl, "/a", rfl⟩
      (by decide +kernel)

end Uploads

/-! ## One call alone -/

/-- A call of `Session.upload` that is alone takes these steps. -/
theorem Session.upload_steps {m : Type → Type} [Monad m] [LawfulMonad m] (s : Session m)
    (hash mediaType : String) (bytes : ByteArray) (c : Caches m) :
    Ensures (s.upload hash mediaType bytes) c fun address d => ∃ steps cell,
      Uploads.run? { cache := c.uploads } steps =
        some { cache := d.uploads, calls := [⟨hash, cell, .returned address⟩] } := by
  -- No other call is there, so the call stores exactly if its cell is empty.
  have henter : Uploads.enter { cache := c.uploads } hash =
      { cache := (c.uploads.join hash).2
        calls := [⟨hash, (c.uploads.join hash).1,
          if ((c.uploads.join hash).2.value? (c.uploads.join hash).1).isSome then .waiting
          else .storing⟩] } := by
    simp [Uploads.enter, Uploads.entering, Uploads.stores]
  unfold Session.upload
  refine ensures_get_bind ((ensures_getOrRun (p := fun o d => ∃ steps cell,
    Uploads.run? { cache := c.uploads } steps = some {
      cache := if o.1.isSome then o.2 else (o.2.evict hash).2
      calls := [⟨hash, cell, .returned o.1⟩] }) ?_ ?_).bind ?_)
  · intro address hvalue
    refine ⟨[.enter hash, .resume 0], (c.uploads.join hash).1, ?_⟩
    simp [Uploads.run?, Uploads.step?, henter, hvalue, Uploads.resume?, Option.filter,
      Uploads.dropFailure]
  · intro hvalue
    refine Ensures.bind (ensures_lift_any _) fun outcome d _ => ensures_pure ?_
    refine ⟨[.enter hash, .answer 0 outcome, .resume 0], (c.uploads.join hash).1, ?_⟩
    simp [Uploads.run?, Uploads.step?, henter, hvalue, Uploads.answer?, Uploads.resume?,
      Option.filter, Uploads.value?_fill, Uploads.dropFailure]
  · rintro ⟨address, uploads⟩ d hsteps
    exact ensures_set_return hsteps

end SceneCompiler
