import Mathlib
import SceneCompiler.Proofs.Session.Flights
/-!
# Single flight

Callers of one key that join between the same evictions share one operation, and nothing of that
depends on other keys. What goes on for one key is a system of its own, with one cell for each
generation of its callers; a step of the key is a step of that system, and no other step is.

* `seen_step`, `seen_of_not_concerns`: what a step changes for a key.
* `singleFlight_of_run`: what holds in every interleaving.
-/

namespace SceneCompiler

/-! ## One key -/

/-- What goes on for one key: how often it was evicted, its callers, each with the evictions before
it, and the cells, one for each generation of callers. -/
@[ext]
structure KeyFlights (β : Type) where
  evictions : Nat := 0
  callers : List (Nat × CallerPhase β) := []
  cells : Nat → CellState β := fun _ => .empty

/-- Whether a step is one of the key. -/
def FlightStep.concerns {α β : Type} [DecidableEq α] (key : α) : FlightStep α β → Bool
  | .join key' | .start key' _ | .finish key' _ _ | .resume key' _ | .evict key' => key' = key
  | .clear => true

namespace KeyFlights

variable {α β : Type}

/-- A caller comes to another phase, and the cell of its generation to another state. -/
def move (w : KeyFlights β) (i generation : Nat) (phase : CallerPhase β) (state : CellState β) :
    KeyFlights β :=
  { w with
    callers := w.callers.set i (generation, phase)
    cells := Function.update w.cells generation state }

def start? (w : KeyFlights β) (i : Nat) : Option (KeyFlights β) := do
  let (generation, phase) ← w.callers[i]?
  match phase, w.cells generation with
  | .joined, .empty => some (w.move i generation .running .busy)
  | _, _ => none

def finish? (w : KeyFlights β) (i : Nat) (value : β) : Option (KeyFlights β) := do
  let (generation, phase) ← w.callers[i]?
  match phase with
  | .running => some (w.move i generation .joined (.filled value))
  | _ => none

def resume? (w : KeyFlights β) (i : Nat) : Option (KeyFlights β) := do
  let (generation, phase) ← w.callers[i]?
  match phase, w.cells generation with
  | .joined, .filled value => some (w.move i generation (.returned value) (.filled value))
  | _, _ => none

def step? (w : KeyFlights β) : FlightStep α β → Option (KeyFlights β)
  | .join _ => some { w with callers := w.callers ++ [(w.evictions, .joined)] }
  | .start _ i => w.start? i
  | .finish _ i value => w.finish? i value
  | .resume _ i => w.resume? i
  | .evict _ | .clear => some { w with evictions := w.evictions + 1 }

end KeyFlights

namespace Flights

variable {α β : Type} [Ord α] {u v : Flights α β} {key key' : α} {i cell generation : Nat}

/-! ## What a key sees -/

/-- The cell of a generation of callers. -/
def cellOf? (u : Flights α β) (key : α) (generation : Nat) : Option Nat :=
  ((u.callers key).find? (·.generation = generation)).map (·.cell)

/-- What goes on for a key. -/
def seen (u : Flights α β) (key : α) : KeyFlights β where
  evictions := u.evictions key
  callers := (u.callers key).map fun a => (a.generation, a.phase)
  cells generation := (u.cellOf? key generation).elim .empty u.cellState

theorem getElem?_callers_seen : (u.seen key).callers[i]? =
    (u.callers key)[i]?.map fun a => (a.generation, a.phase) :=
  List.getElem?_map ..

theorem cells_seen : (u.seen key).cells generation =
    (u.cellOf? key generation).elim .empty u.cellState :=
  rfl

section Placed

variable [Std.TransOrd α]

theorem Placed.cellOf?_eq_some (hu : u.Placed) :
    u.cellOf? key generation = some cell ↔ u.Joined key cell generation := by
  unfold cellOf?
  rw [Option.map_eq_some_iff]
  constructor
  · rintro ⟨a, ha, rfl⟩
    have hgeneration : a.generation = generation := by simpa using List.find?_some ha
    exact ⟨a, List.mem_of_find?_eq_some ha, rfl, hgeneration⟩
  · rintro ⟨a, ha, rfl, rfl⟩
    -- The first caller of the generation joined the same cell.
    obtain ⟨b, hb⟩ : ∃ b, (u.callers key).find? (·.generation = a.generation) = some b := by
      rw [← Option.isSome_iff_exists, List.find?_isSome]
      exact ⟨a, ha, by simp⟩
    have hgeneration : b.generation = a.generation := by simpa using List.find?_some hb
    have hjoined : u.Joined key b.cell b.generation :=
      ⟨b, List.mem_of_find?_eq_some hb, rfl, rfl⟩
    exact ⟨b, hb, (hu.apart key b.cell b.generation key a.cell a.generation hjoined
      ⟨a, ha, rfl, rfl⟩).mpr ⟨rfl, hgeneration⟩⟩

theorem Placed.cells_generation (hu : u.Placed) {a : Caller β} (ha : (u.callers key)[i]? = some a) :
    (u.seen key).cells a.generation = u.cellState a.cell := by
  have hcell : u.cellOf? key a.generation = some a.cell :=
    hu.cellOf?_eq_some.mpr ⟨a, List.mem_of_getElem? ha, rfl, rfl⟩
  rw [cells_seen, hcell, Option.elim_some]

theorem cellOf?_congr (hu : u.Placed) (hv : v.Placed) (hjoined : v.Joined = u.Joined) :
    v.cellOf? = u.cellOf? := by
  funext key generation
  refine Option.ext fun cell => ?_
  rw [hv.cellOf?_eq_some, hu.cellOf?_eq_some, hjoined]

/-- A cell that nobody has joined yet is empty. -/
theorem Coherent.cellState_next (hu : u.Coherent) : u.cellState u.cache.next = .empty := by
  have hstarted : u.cache.next ∉ u.started :=
    fun h => lt_irrefl _ (hu.started_lt u.cache.next h)
  rw [cellState_eq_empty]
  constructor
  · rw [Option.eq_none_iff_forall_ne_some]
    intro value hvalue
    exact hstarted (hu.finished _ value ((hu.value _ value).mp hvalue))
  · intro hbusy
    exact hstarted ((hu.busy _).mp hbusy).1

end Placed

section Steps

variable [DecidableEq α]

/-- A caller goes on: its key sees that, and no other key does. -/
theorem seen_move [Std.TransOrd α] (hu : u.Placed) (hv : v.Placed) {a : Caller β}
    (ha : (u.callers key)[i]? = some a) {phase : CallerPhase β} {state : CellState β}
    (hcallers : v.callers = u.move key i a phase) (hevictions : v.evictions = u.evictions)
    (hstate : ∀ cell, v.cellState cell = if cell = a.cell then state else u.cellState cell) :
    v.seen key = (u.seen key).move i a.generation phase state ∧
      ∀ key' ≠ key, v.seen key' = u.seen key' := by
  have hcells := cellOf?_congr hu hv (joined_move ha hcallers)
  have hjoined : u.Joined key a.cell a.generation := ⟨a, List.mem_of_getElem? ha, rfl, rfl⟩
  constructor
  · refine KeyFlights.ext (congrFun hevictions key) ?_ (funext fun generation => ?_)
    · show (v.callers key).map _ = ((u.callers key).map _).set i _
      rw [hcallers, Flights.move, Function.update_self, List.map_set]
    · show _ = Function.update (u.seen key).cells a.generation state generation
      rw [Function.update_apply, cells_seen, cells_seen, hcells]
      cases hcell : u.cellOf? key generation with
      | none =>
        -- Nobody is of that generation, so the caller is not.
        have hne : generation ≠ a.generation := by
          rintro rfl
          rw [hu.cellOf?_eq_some.mpr hjoined] at hcell
          cases hcell
        rw [if_neg hne, Option.elim_none, Option.elim_none]
      | some cell =>
        -- One cell is that of one generation.
        have hother := hu.cellOf?_eq_some.mp hcell
        have hsame := hu.apart key cell generation key a.cell a.generation hother hjoined
        rw [Option.elim_some, Option.elim_some, hstate]
        simp only [hsame, true_and]
  · intro key' hne
    refine KeyFlights.ext (congrFun hevictions key') ?_ (funext fun generation => ?_)
    · show (v.callers key').map _ = (u.callers key').map _
      rw [hcallers, Flights.move, Function.update_of_ne hne]
    · rw [cells_seen, cells_seen, hcells]
      cases hcell : u.cellOf? key' generation with
      | none => rfl
      | some cell =>
        have hother := hu.cellOf?_eq_some.mp hcell
        have hapart := hu.apart key' cell generation key a.cell a.generation hother hjoined
        rw [Option.elim_some, Option.elim_some, hstate, if_neg fun heq => hne (hapart.mp heq).1]

variable [Std.TransOrd α]

theorem cellState_join : (u.join key).cellState cell = u.cellState cell := by
  unfold cellState
  rw [show (u.join key).cache.value? cell = u.cache.value? cell from InFlight.value?_join ..]
  rfl

/-- The start of an operation, as the keys see it. -/
theorem Coherent.seen_start (hu : u.Coherent) {a : Caller β} (ha : (u.callers key)[i]? = some a)
    (hphase : a.phase = .joined) (hstate : u.cellState a.cell = .empty)
    (hv : v = { u with
      busy := insert a.cell u.busy
      callers := u.move key i a .running
      started := u.started ++ [a.cell] }) :
    v.seen key = (u.seen key).move i a.generation .running .busy ∧
      ∀ key' ≠ key, v.seen key' = u.seen key' := by
  subst hv
  refine seen_move hu.toPlaced (hu.start ha hphase hstate).toPlaced ha rfl rfl fun cell => ?_
  obtain ⟨hvalue, -⟩ := cellState_eq_empty.mp hstate
  unfold cellState
  by_cases h : cell = a.cell
  · simp [h, hvalue]
  · simp [h]

/-- The end of an operation, as the keys see it. -/
theorem Coherent.seen_finish (hu : u.Coherent) {a : Caller β} (ha : (u.callers key)[i]? = some a)
    (hphase : a.phase = .running) {value : β}
    (hv : v = { u with
      cache := u.cache.fill a.cell value
      busy := u.busy.erase a.cell
      callers := u.move key i a .joined
      finished := u.finished ++ [(a.cell, value)] }) :
    v.seen key = (u.seen key).move i a.generation .joined (.filled value) ∧
      ∀ key' ≠ key, v.seen key' = u.seen key' := by
  subst hv
  refine seen_move hu.toPlaced (hu.finish ha hphase value).toPlaced ha rfl rfl fun cell => ?_
  unfold cellState
  rw [InFlight.value?_fill]
  by_cases h : cell = a.cell
  · simp [h]
  · simp [h, Ne.symm h]

/-- The return of a caller, as the keys see it. -/
theorem Coherent.seen_resume (hu : u.Coherent) {a : Caller β} (ha : (u.callers key)[i]? = some a)
    (hphase : a.phase = .joined) {value : β} (hstate : u.cellState a.cell = .filled value)
    (hv : v = { u with callers := u.move key i a (.returned value) }) :
    v.seen key = (u.seen key).move i a.generation (.returned value) (.filled value) ∧
      ∀ key' ≠ key, v.seen key' = u.seen key' := by
  subst hv
  have hnext := (hu.resume ha hphase (cellState_eq_filled.mp hstate)).toPlaced
  refine seen_move hu.toPlaced hnext ha rfl rfl fun cell => ?_
  split
  · next h =>
    rw [h]
    exact hstate
  · rfl

/-- Other keys do not see a caller go on. Its own key sees whether it can. -/
theorem seen_start? (hu : u.Coherent) (key : α) (i : Nat) :
    (u.start? key i).map (·.seen key) = (u.seen key).start? i := by
  unfold start? KeyFlights.start?
  rw [getElem?_callers_seen]
  cases ha : (u.callers key)[i]? with
  | none => rfl
  | some a =>
    simp only [Option.bind_eq_bind, Option.bind_some, Option.map_some, hu.cells_generation ha]
    match hphase : a.phase, hstate : u.cellState a.cell with
    | .joined, .empty => exact congrArg some (hu.seen_start ha hphase hstate rfl).1
    | .joined, .busy | .joined, .filled _ | .running, _ | .returned _, _ => rfl

theorem seen_finish? (hu : u.Coherent) (key : α) (i : Nat) (value : β) :
    (u.finish? key i value).map (·.seen key) = (u.seen key).finish? i value := by
  unfold finish? KeyFlights.finish?
  rw [getElem?_callers_seen]
  cases ha : (u.callers key)[i]? with
  | none => rfl
  | some a =>
    simp only [Option.bind_eq_bind, Option.bind_some, Option.map_some]
    match hphase : a.phase with
    | .running => exact congrArg some (hu.seen_finish ha hphase rfl).1
    | .joined | .returned _ => rfl

theorem seen_resume? (hu : u.Coherent) (key : α) (i : Nat) :
    (u.resume? key i).map (·.seen key) = (u.seen key).resume? i := by
  unfold resume? KeyFlights.resume?
  rw [getElem?_callers_seen]
  cases ha : (u.callers key)[i]? with
  | none => rfl
  | some a =>
    simp only [Option.bind_eq_bind, Option.bind_some, Option.map_some, hu.cells_generation ha]
    match hphase : a.phase, hstate : u.cellState a.cell with
    | .joined, .filled value => exact congrArg some (hu.seen_resume ha hphase hstate rfl).1
    | .joined, .busy | .joined, .empty | .running, _ | .returned _, _ => rfl

theorem seen_evict (u : Flights α β) (key : α) :
    (u.evict key).seen key = { u.seen key with evictions := (u.seen key).evictions + 1 } ∧
      ∀ key' ≠ key, (u.evict key).seen key' = u.seen key' := by
  constructor
  · refine KeyFlights.ext ?_ rfl rfl
    exact Function.update_self ..
  · intro key' hne
    refine KeyFlights.ext ?_ rfl rfl
    exact Function.update_of_ne hne ..

variable [Std.LawfulEqOrd α]

/-- Whoever joins comes to the cell of its generation, which is empty if it is the first. -/
theorem seen_join (hu : u.Coherent) (key : α) :
    (u.join key).seen key = { u.seen key with
        callers := (u.seen key).callers ++ [(u.evictions key, .joined)] } ∧
      ∀ key' ≠ key, (u.join key).seen key' = u.seen key' := by
  have hv : (u.join key).Placed := hu.toPlaced.join key
  have hcells : ∀ key' generation,
      ((u.join key).seen key').cells generation = (u.seen key').cells generation := by
    intro key' generation
    rw [cells_seen, cells_seen]
    cases hcell : u.cellOf? key' generation with
    | some cell =>
      have hold := hu.cellOf?_eq_some.mp hcell
      rw [hv.cellOf?_eq_some.mpr (joined_join.mpr (Or.inl hold))]
      exact cellState_join
    | none =>
      have hnobody : ∀ cell, ¬ u.Joined key' cell generation := by
        intro cell h
        rw [hu.cellOf?_eq_some.mpr h] at hcell
        cases hcell
      cases hnew : (u.join key).cellOf? key' generation with
      | none => rfl
      | some cell =>
        rcases joined_join.mp (hv.cellOf?_eq_some.mp hnew) with hold | ⟨rfl, rfl, rfl⟩
        · exact absurd hold (hnobody cell)
        · -- The first of a generation finds no cell, and opens one.
          have hcurrent : u.cache.current[key']? = none := by
            rw [Option.eq_none_iff_forall_ne_some]
            intro cell hcell
            exact hnobody cell ((hu.current key' cell).mp hcell)
          rw [Option.elim_some, Option.elim_none, cellState_join, InFlight.fst_join, hcurrent]
          exact hu.cellState_next
  constructor
  · refine KeyFlights.ext rfl ?_ (funext (hcells key))
    show ((u.join key).callers key).map _ = (u.callers key).map _ ++ _
    rw [callers_join, Function.update_self, List.map_append]
    rfl
  · intro key' hne
    refine KeyFlights.ext rfl ?_ (funext (hcells key'))
    show ((u.join key).callers key').map _ = (u.callers key').map _
    rw [callers_join, Function.update_of_ne hne]

/-- A step of a key is a step of what the key sees. -/
theorem seen_step (hu : u.Coherent) {step : FlightStep α β} (hstep : step.concerns key) :
    (u.step? step).map (·.seen key) = (u.seen key).step? step := by
  cases step with
  | join key' =>
    obtain rfl : key' = key := of_decide_eq_true hstep
    exact congrArg some (seen_join hu key').1
  | start key' i =>
    obtain rfl : key' = key := of_decide_eq_true hstep
    exact seen_start? hu key' i
  | finish key' i value =>
    obtain rfl : key' = key := of_decide_eq_true hstep
    exact seen_finish? hu key' i value
  | resume key' i =>
    obtain rfl : key' = key := of_decide_eq_true hstep
    exact seen_resume? hu key' i
  | evict key' =>
    obtain rfl : key' = key := of_decide_eq_true hstep
    exact congrArg some (seen_evict u key').1
  | clear => rfl

/-- The other steps leave alone what the key sees. -/
theorem seen_of_not_concerns (hu : u.Coherent) {step : FlightStep α β}
    (hstep : ¬ step.concerns key) (h : u.step? step = some v) : v.seen key = u.seen key := by
  cases step with
  | join key' =>
    obtain rfl := Option.some.inj h
    exact (seen_join hu key').2 key fun heq => hstep (decide_eq_true heq.symm)
  | start key' i =>
    obtain ⟨a, ha, hphase, hstate, hv⟩ := start?_eq_some.mp h
    exact (hu.seen_start ha hphase hstate hv).2 key fun heq => hstep (decide_eq_true heq.symm)
  | finish key' i value =>
    obtain ⟨a, ha, hphase, hv⟩ := finish?_eq_some.mp h
    exact (hu.seen_finish ha hphase hv).2 key fun heq => hstep (decide_eq_true heq.symm)
  | resume key' i =>
    obtain ⟨a, value, ha, hphase, hstate, hv⟩ := resume?_eq_some.mp h
    exact (hu.seen_resume ha hphase hstate hv).2 key fun heq => hstep (decide_eq_true heq.symm)
  | evict key' =>
    obtain rfl := Option.some.inj h
    exact (seen_evict u key').2 key fun heq => hstep (decide_eq_true heq.symm)
  | clear => exact absurd rfl hstep

/-! ## Single flight -/

/-- The cells of all keys that are filled. -/
def completed (u : Flights α β) : Set Nat :=
  {cell | (∃ key : α, u.cache.current[key]? = some cell) ∧ ∃ value, (cell, value) ∈ u.finished}

/-- Callers of a key between the same evictions share one operation and its value. -/
structure SingleFlight (u : Flights α β) : Prop where
  once : u.started.Nodup
  ended : (u.finished.map Prod.fst).Nodup
  finished : ∀ cell value, (cell, value) ∈ u.finished → cell ∈ u.started
  shared : ∀ key key', ∀ a ∈ u.callers key, ∀ b ∈ u.callers key',
    a.cell = b.cell ↔ key = key' ∧ a.generation = b.generation
  returned : ∀ key, ∀ a ∈ u.callers key, ∀ value, a.phase = .returned value →
    (a.cell, value) ∈ u.finished
  /-- Whoever waits for a cell can return its value, whatever the operation comes to. -/
  returns : ∀ (key : α) (i : Nat) (a : Caller β), (u.callers key)[i]? = some a → ∀ value,
    (∀ kept, (a.cell, kept) ∈ u.finished → kept = value) →
    ∃ steps v, u.run? steps = some v ∧
      (v.callers key)[i]? = some { a with phase := .returned value }
  /-- Whoever has not returned can do so, or start the operation, or a caller runs it. -/
  pending : ∀ key i a, (u.callers key)[i]? = some a → (∃ value, a.phase = .returned value) ∨
    (u.resume? key i).isSome ∨ (u.start? key i).isSome ∨
    ∃ j b, (u.callers key)[j]? = some b ∧ b.cell = a.cell ∧
      ∀ value, (u.finish? key j value).isSome
  current : ∀ key cell, u.cache.current[key]? = some cell ↔
    ∃ a ∈ u.callers key, a.cell = cell ∧ a.generation = u.evictions key
  cached : ∀ key value, u.cache.cached? key = some value ↔
    ∃ cell, u.cache.current[key]? = some cell ∧ (cell, value) ∈ u.finished
  size : u.cache.size = u.completed.ncard

/-- The steps of a key come to the same without those of other keys. -/
structure Alone (steps : List (FlightStep α β)) (u : Flights α β) (key : α) (w : Flights α β) :
    Prop where
  run : run? {} (steps.filter (·.concerns key)) = some w
  seen : w.seen key = u.seen key
  cached : w.cache.cached? key = u.cache.cached? key
  next : ∀ step : FlightStep α β, step.concerns key →
    (w.step? step).isSome = (u.step? step).isSome

end Steps

/-! ### Callers that can go on -/

section Callers

variable [DecidableEq α] {a : Caller β} (ha : (u.callers key)[i]? = some a)
include ha

theorem exists_start (hphase : a.phase = .joined) (hstate : u.cellState a.cell = .empty) :
    ∃ v, u.start? key i = some v ∧ v.cache = u.cache ∧
      (v.callers key)[i]? = some { a with phase := .running } := by
  refine ⟨_, start?_eq_some.mpr ⟨a, ha, hphase, hstate, rfl⟩, rfl, ?_⟩
  rw [getElem?_move ha, if_pos ⟨rfl, rfl⟩]

theorem exists_finish (hphase : a.phase = .running) (value : β) :
    ∃ v, u.finish? key i value = some v ∧ v.cache = u.cache.fill a.cell value ∧
      (v.callers key)[i]? = some { a with phase := .joined } := by
  refine ⟨_, finish?_eq_some.mpr ⟨a, ha, hphase, rfl⟩, rfl, ?_⟩
  rw [getElem?_move ha, if_pos ⟨rfl, rfl⟩]

theorem exists_resume (hphase : a.phase = .joined) {value : β}
    (hvalue : u.cache.value? a.cell = some value) :
    ∃ v, u.resume? key i = some v ∧ v.cache = u.cache ∧
      (v.callers key)[i]? = some { a with phase := .returned value } := by
  have hstate := cellState_eq_filled.mpr hvalue
  refine ⟨_, resume?_eq_some.mpr ⟨a, value, ha, hphase, hstate, rfl⟩, rfl, ?_⟩
  rw [getElem?_move ha, if_pos ⟨rfl, rfl⟩]

end Callers

section SingleFlight

variable [Std.TransOrd α]

/-- A caller whose cell is busy waits for another caller of its key. -/
theorem Coherent.exists_runner (hu : u.Coherent) {a : Caller β}
    (ha : (u.callers key)[i]? = some a) (hstate : u.cellState a.cell = .busy) :
    ∃ (j : Nat) (b : Caller β), (u.callers key)[j]? = some b ∧ b.cell = a.cell ∧
      b.phase = .running := by
  obtain ⟨key', j, b, hb, hcell, hrunning⟩ := hu.runner a.cell (mem_busy_of_cellState hstate)
  have hjoined : u.Joined key a.cell a.generation := ⟨a, List.mem_of_getElem? ha, rfl, rfl⟩
  have hjoined' : u.Joined key' b.cell b.generation := ⟨b, List.mem_of_getElem? hb, rfl, rfl⟩
  obtain ⟨rfl, -⟩ := (hu.apart _ _ _ _ _ _ hjoined' hjoined).mp hcell
  exact ⟨j, b, hb, hcell, hrunning⟩

/-- Nobody waits for a cell that nobody fills. -/
theorem Coherent.pending [DecidableEq α] (hu : u.Coherent) {a : Caller β}
    (ha : (u.callers key)[i]? = some a) :
    (∃ value, a.phase = .returned value) ∨ (u.resume? key i).isSome ∨ (u.start? key i).isSome ∨
      ∃ j b, (u.callers key)[j]? = some b ∧ b.cell = a.cell ∧
        ∀ value, (u.finish? key j value).isSome := by
  have hfinish : ∀ j b, (u.callers key)[j]? = some b → b.phase = .running →
      ∀ value, (u.finish? key j value).isSome := by
    intro j b hb hphase value
    obtain ⟨v, hv, -⟩ := exists_finish hb hphase value
    exact Option.isSome_of_eq_some hv
  cases hphase : a.phase with
  | returned value => exact Or.inl ⟨value, rfl⟩
  | running => exact Or.inr (Or.inr (Or.inr ⟨i, a, ha, rfl, hfinish i a ha hphase⟩))
  | joined =>
    cases hstate : u.cellState a.cell with
    | filled value =>
      obtain ⟨v, hv, -⟩ := exists_resume ha hphase (cellState_eq_filled.mp hstate)
      exact Or.inr (Or.inl (Option.isSome_of_eq_some hv))
    | empty =>
      obtain ⟨v, hv, -⟩ := exists_start ha hphase hstate
      exact Or.inr (Or.inr (Or.inl (Option.isSome_of_eq_some hv)))
    | busy =>
      -- It waits until the operation that another caller runs has ended.
      refine Or.inr (Or.inr (Or.inr ?_))
      obtain ⟨j, b, hb, hcell, hrunning⟩ := hu.exists_runner ha hstate
      exact ⟨j, b, hb, hcell, hfinish j b hb hrunning⟩

/-- Once the operation of a cell comes to a value, everyone who waits for it can return that. -/
theorem exists_return_of_running [DecidableEq α] {a b : Caller β} {j : Nat}
    (ha : (u.callers key)[i]? = some a) (hb : (u.callers key)[j]? = some b)
    (hrunning : b.phase = .running) (hcell : b.cell = a.cell) (hwait : a.phase = .joined ∨ i = j)
    (value : β) : ∃ v, u.run? [.finish key j value, .resume key i] = some v ∧
      (v.callers key)[i]? = some { a with phase := .returned value } := by
  obtain ⟨v, hv, hcallers, hvalue⟩ : ∃ v, u.finish? key j value = some v ∧
      v.callers = u.move key j b .joined ∧ v.cache.value? a.cell = some value := by
    refine ⟨_, finish?_eq_some.mpr ⟨b, hb, hrunning, rfl⟩, rfl, ?_⟩
    rw [InFlight.value?_fill, if_pos hcell]
  -- At the end of the operation the caller waits, whether it ran the operation or not.
  have hjoined : (v.callers key)[i]? = some { a with phase := .joined } := by
    rw [hcallers, getElem?_move hb]
    rcases hwait with hphase | rfl
    · split
      · next h =>
        obtain rfl := Option.some.inj (ha.symm.trans (h.2 ▸ hb))
        rfl
      · rw [ha, ← hphase]
    · obtain rfl := Option.some.inj (ha.symm.trans hb)
      rw [if_pos ⟨rfl, rfl⟩]
  obtain ⟨w, hw, -, hreturned⟩ := exists_resume hjoined rfl hvalue
  refine ⟨w, ?_, hreturned⟩
  simp [run?, step?, hv, hw]

theorem Coherent.returns [DecidableEq α] (hu : u.Coherent) {a : Caller β}
    (ha : (u.callers key)[i]? = some a) (value : β)
    (hvalue : ∀ kept, (a.cell, kept) ∈ u.finished → kept = value) :
    ∃ steps v, u.run? steps = some v ∧
      (v.callers key)[i]? = some { a with phase := .returned value } := by
  cases hphase : a.phase with
  | returned kept =>
    -- It has returned what its cell was filled with.
    have hkept := (hu.value a.cell kept).mp (hu.returned key i a.cell kept ⟨a, ha, rfl, hphase⟩)
    obtain rfl := hvalue kept hkept
    refine ⟨[], u, rfl, ?_⟩
    rw [ha, ← hphase]
  | running => exact ⟨_, exists_return_of_running ha ha hphase rfl (Or.inr rfl) value⟩
  | joined =>
    cases hstate : u.cellState a.cell with
    | filled kept =>
      have hfilled := cellState_eq_filled.mp hstate
      obtain rfl := hvalue kept ((hu.value a.cell kept).mp hfilled)
      obtain ⟨v, hv, -, hreturned⟩ := exists_resume ha hphase hfilled
      exact ⟨[.resume key i], v, by simp [run?, step?, hv], hreturned⟩
    | empty =>
      -- It runs the operation itself.
      obtain ⟨v, hv, -, hrunning⟩ := exists_start ha hphase hstate
      obtain ⟨w, hw, hreturned⟩ :=
        exists_return_of_running hrunning hrunning rfl rfl (Or.inr rfl) value
      refine ⟨[.start key i, .finish key i value, .resume key i], w, ?_, hreturned⟩
      rw [← hw]
      simp [run?, step?, hv]
    | busy =>
      obtain ⟨j, b, hb, hcell, hrunning⟩ := hu.exists_runner ha hstate
      exact ⟨_, exists_return_of_running ha hb hrunning hcell (Or.inl hphase) value⟩

/-! ### What is kept -/

theorem Coherent.cached?_eq_some (hu : u.Coherent) {value : β} :
    u.cache.cached? key = some value ↔
      ∃ cell, u.cache.current[key]? = some cell ∧ (cell, value) ∈ u.finished := by
  unfold InFlight.cached?
  rw [Option.bind_eq_some_iff]
  simp only [hu.value]

/-- The cached value of a key is that of the cell of the present generation. -/
theorem Coherent.cached?_eq_some_iff_seen (hu : u.Coherent) {value : β} :
    u.cache.cached? key = some value ↔
      (u.seen key).cells (u.seen key).evictions = .filled value := by
  have hcurrent : u.cache.current[key]? = u.cellOf? key (u.evictions key) := by
    refine Option.ext fun cell => ?_
    rw [hu.current, hu.cellOf?_eq_some]
  unfold InFlight.cached?
  show _ ↔ (u.cellOf? key (u.evictions key)).elim .empty u.cellState = .filled value
  rw [hcurrent]
  cases u.cellOf? key (u.evictions key) with
  | none => simp
  | some cell =>
    rw [Option.bind_some, Option.elim_some]
    exact cellState_eq_filled.symm

theorem Coherent.size_eq [Std.LawfulEqOrd α] (hu : u.Coherent) :
    u.cache.size = u.completed.ncard := by
  have hmem : ∀ p : α × Nat, p ∈ u.cache.current.toList ↔ u.cache.current[p.1]? = some p.2 :=
    fun p => Std.ExtTreeMap.mem_toList_iff_getElem?_eq_some
  have hnodup : u.cache.current.toList.Nodup := by
    refine Std.ExtTreeMap.distinct_keys_toList.imp fun h heq => h ?_
    rw [heq]
    exact Std.ReflCmp.compare_self
  -- No two keys have the same cell, so that the cells are counted by their keys.
  have hcells : ((u.cache.current.toList.filter fun p => (u.cache.value? p.2).isSome).map
      Prod.snd).Nodup := by
    refine (hnodup.filter _).map_on fun p hp q hq heq => ?_
    have hp := (hu.current p.1 p.2).mp ((hmem p).mp (List.mem_filter.mp hp).1)
    have hq := (hu.current q.1 q.2).mp ((hmem q).mp (List.mem_filter.mp hq).1)
    have hkey := (hu.apart _ _ _ _ _ _ hp hq).mp heq
    exact Prod.ext hkey.1 heq
  have hset : u.completed = ((u.cache.current.toList.filter
      fun p => (u.cache.value? p.2).isSome).map Prod.snd).toFinset := by
    ext cell
    simp [completed, hmem, Option.isSome_iff_exists, hu.value]
  rw [hset, Set.ncard_coe_finset, List.toFinset_card_of_nodup hcells, List.length_map]
  rfl

/-! ### Every interleaving -/

variable [DecidableEq α] [Std.LawfulEqOrd α]

theorem Coherent.singleFlight (hu : u.Coherent) : u.SingleFlight where
  once := hu.once
  ended := hu.ended
  finished := hu.finished
  shared key key' a ha b hb :=
    hu.apart key a.cell a.generation key' b.cell b.generation ⟨a, ha, rfl, rfl⟩ ⟨b, hb, rfl, rfl⟩
  returned key a ha value hphase := by
    obtain ⟨i, hi⟩ := List.mem_iff_getElem?.mp ha
    exact (hu.value a.cell value).mp (hu.returned key i a.cell value ⟨a, hi, rfl, hphase⟩)
  returns _ _ _ ha := hu.returns ha
  pending _ _ _ ha := hu.pending ha
  current := hu.current
  cached _ _ := hu.cached?_eq_some
  size := hu.size_eq

/-- What a key sees comes from its own steps. -/
theorem exists_seen_alone {steps : List (FlightStep α β)} (h : run? {} steps = some u) (key : α) :
    ∃ w, run? {} (steps.filter (·.concerns key)) = some w ∧ w.seen key = u.seen key := by
  -- Both runs go on side by side: a step of another key is taken in one of them only.
  refine run?_induction (P := fun steps u => ∃ w,
    run? {} (steps.filter (·.concerns key)) = some w ∧ w.seen key = u.seen key)
    ⟨{}, rfl, rfl⟩ ?_ h
  intro steps u step v hrun ⟨w, hw, hseen⟩ hstep
  rw [List.filter_append]
  by_cases hkey : step.concerns key
  · -- The step is possible without the others, as it is one of what the key sees.
    have hv := seen_step (coherent_of_run hrun) hkey
    have hw' := seen_step (coherent_of_run hw) hkey
    rw [hseen, ← hv, hstep, Option.map_some, Option.map_eq_some_iff] at hw'
    obtain ⟨w', hlast, hseen'⟩ := hw'
    refine ⟨w', ?_, hseen'⟩
    rw [List.filter_cons_of_pos hkey, List.filter_nil, run?_concat, hw]
    exact hlast
  · rw [List.filter_cons_of_neg hkey, List.filter_nil, List.append_nil]
    exact ⟨w, hw, hseen.trans (seen_of_not_concerns (coherent_of_run hrun) hkey hstep).symm⟩

theorem Coherent.alone_of_seen {w : Flights α β} (hu : u.Coherent) (hw : w.Coherent)
    {steps : List (FlightStep α β)} (hrun : run? {} (steps.filter (·.concerns key)) = some w)
    (hseen : w.seen key = u.seen key) : Alone steps u key w where
  run := hrun
  seen := hseen
  cached := by
    refine Option.ext fun value => ?_
    rw [hw.cached?_eq_some_iff_seen, hu.cached?_eq_some_iff_seen, hseen]
  next step hstep := by
    have hu := congrArg Option.isSome (seen_step hu hstep)
    have hw := congrArg Option.isSome (seen_step hw hstep)
    rw [Option.isSome_map] at hu hw
    rw [hu, hw, hseen]

/-- In every interleaving of callers and evictions, the callers of a key between the same evictions
share one operation and return its value, whatever goes on for other keys. -/
theorem singleFlight_of_run {steps : List (FlightStep α β)} (h : run? {} steps = some u) :
    u.SingleFlight ∧ ∀ key, ∃ w, Alone steps u key w := by
  have hu := coherent_of_run h
  refine ⟨hu.singleFlight, fun key => ?_⟩
  obtain ⟨w, hw, hseen⟩ := exists_seen_alone h key
  exact ⟨w, hu.alone_of_seen (coherent_of_run hw) hw hseen⟩

end SingleFlight

/-- A key is evicted while its operation is under way. The next caller starts another operation,
which ends first and comes to nothing. -/
def acrossEviction : List (FlightStep String (Option Nat)) :=
  [.join "a", .start "a" 0, .join "a", .join "b", .evict "a", .join "a", .start "b" 0,
    .start "a" 2, .finish "a" 2 none, .finish "a" 0 (some 7), .resume "a" 1, .resume "a" 2]

/-- The callers before the eviction get the value of the first operation, while that of the second
one is kept. -/
theorem singleFlight_acrossEviction : ∃ u : Flights String (Option Nat),
    run? {} acrossEviction = some u ∧
    u.callers "a" = [⟨0, 0, .joined⟩, ⟨0, 0, .returned (some 7)⟩, ⟨2, 1, .returned none⟩] ∧
    u.cache.cached? "a" = some none ∧ u.cache.cached? "b" = none ∧ u.cache.size = 1 ∧
    (u.SingleFlight ∧ ∀ key, ∃ w, Alone acrossEviction u key w) :=
  ⟨_, rfl, by decide +kernel, by decide +kernel, by decide +kernel, by decide +kernel,
    singleFlight_of_run rfl⟩

/-! ## One call alone -/

section Call

variable [DecidableEq α] [Std.TransOrd α]

/-- The caller that joins as the next one of its key. -/
def nextCaller (u : Flights α β) (key : α) : Caller β where
  cell := (u.cache.join key).1
  generation := u.evictions key

theorem getElem?_callers_join (u : Flights α β) (key : α) :
    ((u.join key).callers key)[(u.callers key).length]? = some (u.nextCaller key) := by
  rw [callers_join, Function.update_self]
  exact List.getElem?_concat_length

/-- A call that finds its cell filled returns the value. -/
theorem exists_run_of_filled {value : β}
    (hvalue : u.cache.value? (u.nextCaller key).cell = some value) :
    ∃ v, u.run? [.join key, .resume key (u.callers key).length] = some v ∧
      v.cache = (u.cache.join key).2 ∧ (v.callers key)[(u.callers key).length]? =
        some { u.nextCaller key with phase := .returned value } := by
  have ha := getElem?_callers_join u key
  have hjoined : (u.join key).cache.value? (u.nextCaller key).cell = some value :=
    (InFlight.value?_join ..).trans hvalue
  obtain ⟨v, hresume, hcache, hcaller⟩ := exists_resume ha rfl hjoined
  refine ⟨v, ?_, hcache, hcaller⟩
  simp [run?, step?, hresume]

/-- A call that finds its cell empty runs the operation, and returns the value. -/
theorem exists_run_of_empty (hempty : u.cellState (u.nextCaller key).cell = .empty) (value : β) :
    ∃ v, u.run? [.join key, .start key (u.callers key).length,
        .finish key (u.callers key).length value, .resume key (u.callers key).length] = some v ∧
      v.cache = (u.cache.join key).2.fill (u.nextCaller key).cell value ∧
      (v.callers key)[(u.callers key).length]? =
        some { u.nextCaller key with phase := .returned value } := by
  obtain ⟨v₁, hstart, hcache₁, hcaller₁⟩ :=
    exists_start (getElem?_callers_join u key) rfl (cellState_join.trans hempty)
  obtain ⟨v₂, hfinish, hcache₂, hcaller₂⟩ := exists_finish hcaller₁ rfl value
  have hvalue : v₂.cache.value? (u.nextCaller key).cell = some value := by
    rw [hcache₂, InFlight.value?_fill, if_pos rfl]
  obtain ⟨v₃, hresume, hcache₃, hcaller₃⟩ := exists_resume hcaller₂ rfl hvalue
  refine ⟨v₃, ?_, ?_, hcaller₃⟩
  · simp [run?, step?, hstart, hfinish, hresume]
  · rw [hcache₃, hcache₂, hcache₁]
    rfl

/-- A call of `InFlight.getOrRun` is a run of these steps when nobody else runs the operation of
its cell. -/
theorem getOrRun_steps {m : Type → Type} [Monad m] [LawfulMonad m]
    (hidle : (u.nextCaller key).cell ∉ u.busy) (compute : m β) : ∃ after : β → Flights α β,
      u.cache.getOrRun key compute = (fun value => (value, (after value).cache)) <$>
        (u.cache.value? (u.nextCaller key).cell).elim compute pure ∧
      ∀ value, u.cache.value? (u.nextCaller key).cell ∈ [none, some value] →
        (∃ steps, u.run? steps = some (after value)) ∧
        ((after value).callers key)[(u.callers key).length]? =
          some { u.nextCaller key with phase := .returned value } := by
  have hjoin : (u.cache.join key).2.value? (u.cache.join key).1 =
      u.cache.value? (u.nextCaller key).cell := InFlight.value?_join ..
  unfold InFlight.getOrRun
  dsimp only
  rw [hjoin]
  cases hvalue : u.cache.value? (u.nextCaller key).cell with
  | some kept =>
    obtain ⟨v, hrun, hcache, hcaller⟩ := exists_run_of_filled hvalue
    refine ⟨fun _ => v, ?_, fun value hsame => ?_⟩
    · simp [hcache]
    · obtain rfl : kept = value := by simpa using hsame
      exact ⟨⟨_, hrun⟩, hcaller⟩
  | none =>
    have hempty := cellState_eq_empty.mpr ⟨hvalue, hidle⟩
    choose after hrun hcache hcaller using exists_run_of_empty hempty
    refine ⟨after, ?_, fun value _ => ⟨⟨_, hrun value⟩, hcaller value⟩⟩
    simp only [hcache, Option.elim_none, map_eq_pure_bind]
    rfl

end Call

end Flights

end SceneCompiler
