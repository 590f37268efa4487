import Mathlib
import SceneCompiler.Session.InFlight
/-!
# Overlapping calls for shared computations

Calls of `InFlight.getOrRun` overlap. A caller joins the cell of its key, the first that finds the
cell empty starts its operation, the cell is filled when the operation finishes, and every caller of
the cell resumes with the value. Keys are evicted in between, so a cell may outlive its entry.

* `Placed`: callers share a cell just when they joined it for one key between the same evictions.
* `Kept`: a cell has one operation, and keeps the value that it came to.
* `Phased`: one caller runs the operation of a cell while it is under way.
* `coherent_of_run`: all this holds in every interleaving.
-/

namespace SceneCompiler

/-! ## Cells after a step -/

namespace InFlight

variable {α β : Type} [Ord α]

theorem value?_fill (x : InFlight α β) (cell cell' : Nat) (value : β) :
    (x.fill cell value).value? cell' = if cell = cell' then some value else x.value? cell' := by
  simp [fill, value?, Std.ExtTreeMap.getElem?_insert]

variable [Std.TransOrd α]

theorem fst_join (x : InFlight α β) (key : α) :
    (x.join key).1 = x.current[key]?.getD x.next := by
  unfold join
  cases x.current[key]? <;> rfl

theorem next_join (x : InFlight α β) (key : α) :
    (x.join key).2.next = if x.current[key]? = none then x.next + 1 else x.next := by
  unfold join
  cases x.current[key]? <;> rfl

theorem value?_join (x : InFlight α β) (key : α) (cell : Nat) :
    (x.join key).2.value? cell = x.value? cell := by
  unfold join
  cases x.current[key]? <;> rfl

variable [Std.LawfulEqOrd α] [DecidableEq α]

/-- The cell that is joined is the cell of the key from then on. -/
theorem current_join (x : InFlight α β) (key key' : α) :
    (x.join key).2.current[key']? =
      if key' = key then some (x.join key).1 else x.current[key']? := by
  unfold join
  cases hcurrent : x.current[key]? with
  | some cell =>
    by_cases h : key' = key
    · simp [h, hcurrent]
    · simp [h]
  | none => simp [Std.ExtTreeMap.getElem?_insert, eq_comm (a := key)]

theorem current_evict (x : InFlight α β) (key key' : α) :
    (x.evict key).2.current[key']? = if key' = key then none else x.current[key']? := by
  simp [evict, Std.ExtTreeMap.getElem?_erase, eq_comm (a := key)]

end InFlight

/-! ## Steps of overlapping calls -/

/-- Where a caller stands. -/
inductive CallerPhase (β : Type) where
  /-- It waits for its cell. -/
  | joined
  /-- It runs the operation of its cell. -/
  | running
  | returned (value : β)
deriving DecidableEq, Repr

/-- A caller that joined a cell after so many evictions of its key. -/
structure Caller (β : Type) where
  cell : Nat
  generation : Nat
  phase : CallerPhase β := .joined
deriving DecidableEq, Repr

/-- A cell is empty, or its operation is under way, or it is filled. -/
inductive CellState (β : Type) where
  | empty
  | busy
  | filled (value : β)
deriving DecidableEq, Repr

/-- The cells, the callers, and what has happened so far. -/
structure Flights (α β : Type) [Ord α] where
  cache : InFlight α β := {}
  /-- The cells whose operation is under way. -/
  busy : Finset Nat := ∅
  /-- The callers of each key, in the order in which they joined. -/
  callers : α → List (Caller β) := fun _ => []
  evictions : α → Nat := fun _ => 0
  /-- The cells that an operation was started for, one entry for each operation. -/
  started : List Nat := []
  /-- The cells that were filled, with their values. -/
  finished : List (Nat × β) := []

/-- A step of an interleaving. A caller is named by its key and its place among the callers of the
key. -/
inductive FlightStep (α β : Type) where
  | join (key : α)
  | start (key : α) (i : Nat)
  | finish (key : α) (i : Nat) (value : β)
  | resume (key : α) (i : Nat)
  | evict (key : α)
  | clear

namespace Flights

variable {α β : Type} [Ord α]

/-! ### Cells -/

def cellState (u : Flights α β) (cell : Nat) : CellState β :=
  match u.cache.value? cell with
  | some value => .filled value
  | none => if cell ∈ u.busy then .busy else .empty

variable {u v : Flights α β} {key key' : α} {i cell : Nat}

theorem cellState_eq_empty :
    u.cellState cell = .empty ↔ u.cache.value? cell = none ∧ cell ∉ u.busy := by
  unfold cellState
  cases u.cache.value? cell with
  | some value => simp
  | none => simp

theorem cellState_eq_filled {value : β} :
    u.cellState cell = .filled value ↔ u.cache.value? cell = some value := by
  unfold cellState
  cases u.cache.value? cell with
  | some kept => simp
  | none =>
    simp only [reduceCtorEq, iff_false]
    split <;> nofun

theorem mem_busy_of_cellState (h : u.cellState cell = .busy) : cell ∈ u.busy := by
  unfold cellState at h
  split at h
  · cases h
  · split at h
    · assumption
    · cases h

/-! ### Callers -/

/-- A caller of the key joined the cell, after so many evictions of the key. -/
def Joined (u : Flights α β) (key : α) (cell generation : Nat) : Prop :=
  ∃ a ∈ u.callers key, a.cell = cell ∧ a.generation = generation

/-- A caller of the key joined the cell, and has come to the phase. -/
def Stands (u : Flights α β) (key : α) (i cell : Nat) (phase : CallerPhase β) : Prop :=
  ∃ a, (u.callers key)[i]? = some a ∧ a.cell = cell ∧ a.phase = phase

/-- A caller in another cell or in another phase is another one. -/
theorem ne_of_stands {a : Caller β} {phase : CallerPhase β} (ha : (u.callers key)[i]? = some a)
    {j : Nat} (h : u.Stands key' j cell phase) (hne : a.cell ≠ cell ∨ a.phase ≠ phase) :
    ¬ (key' = key ∧ j = i) := by
  rintro ⟨rfl, rfl⟩
  obtain ⟨b, hb, hcell, hphase⟩ := h
  obtain rfl := Option.some.inj (ha.symm.trans hb)
  exact hne.elim (fun h => h hcell) fun h => h hphase

/-! ### Steps of callers -/

variable [DecidableEq α]

/-- The callers after one of them came to another phase. -/
def move (u : Flights α β) (key : α) (i : Nat) (a : Caller β) (phase : CallerPhase β) :
    α → List (Caller β) :=
  Function.update u.callers key ((u.callers key).set i { a with phase })

/-- A caller that finds its cell empty starts the operation. -/
def start? (u : Flights α β) (key : α) (i : Nat) : Option (Flights α β) := do
  let a ← (u.callers key)[i]?
  -- While the cell is busy or filled, nobody starts another operation for it.
  match a.phase, u.cellState a.cell with
  | .joined, .empty => some { u with
      busy := insert a.cell u.busy
      callers := u.move key i a .running
      started := u.started ++ [a.cell] }
  | _, _ => none

/-- The operation of a caller comes to a value. -/
def finish? (u : Flights α β) (key : α) (i : Nat) (value : β) : Option (Flights α β) := do
  let a ← (u.callers key)[i]?
  -- The caller returns in a step of its own, like those that wait for it.
  match a.phase with
  | .running => some { u with
      cache := u.cache.fill a.cell value
      busy := u.busy.erase a.cell
      callers := u.move key i a .joined
      finished := u.finished ++ [(a.cell, value)] }
  | _ => none

/-- A caller returns the value of its cell. -/
def resume? (u : Flights α β) (key : α) (i : Nat) : Option (Flights α β) := do
  let a ← (u.callers key)[i]?
  match a.phase, u.cellState a.cell with
  | .joined, .filled value => some { u with callers := u.move key i a (.returned value) }
  | _, _ => none

theorem start?_eq_some : u.start? key i = some v ↔ ∃ a, (u.callers key)[i]? = some a ∧
    a.phase = .joined ∧ u.cellState a.cell = .empty ∧ v = { u with
      busy := insert a.cell u.busy
      callers := u.move key i a .running
      started := u.started ++ [a.cell] } := by
  unfold start?
  rw [Option.bind_eq_bind, Option.bind_eq_some_iff]
  refine exists_congr fun a => and_congr_right fun _ => ?_
  cases a.phase <;> cases u.cellState a.cell <;> simp [eq_comm]

theorem finish?_eq_some {value : β} : u.finish? key i value = some v ↔ ∃ a,
    (u.callers key)[i]? = some a ∧ a.phase = .running ∧ v = { u with
      cache := u.cache.fill a.cell value
      busy := u.busy.erase a.cell
      callers := u.move key i a .joined
      finished := u.finished ++ [(a.cell, value)] } := by
  unfold finish?
  rw [Option.bind_eq_bind, Option.bind_eq_some_iff]
  refine exists_congr fun a => and_congr_right fun _ => ?_
  cases a.phase <;> simp [eq_comm]

theorem resume?_eq_some : u.resume? key i = some v ↔ ∃ a value, (u.callers key)[i]? = some a ∧
    a.phase = .joined ∧ u.cellState a.cell = .filled value ∧
    v = { u with callers := u.move key i a (.returned value) } := by
  unfold resume?
  rw [Option.bind_eq_bind, Option.bind_eq_some_iff]
  refine exists_congr fun a => ?_
  cases a.phase <;> cases u.cellState a.cell <;> simp [eq_comm]

section Move

variable {a : Caller β} {phase phase' : CallerPhase β}

theorem getElem?_move (ha : (u.callers key)[i]? = some a) (j : Nat) :
    (u.move key i a phase key')[j]? =
      if key' = key ∧ j = i then some { a with phase } else (u.callers key')[j]? := by
  unfold move
  by_cases hkey : key' = key
  · obtain ⟨hi, -⟩ := List.getElem?_eq_some_iff.mp ha
    subst hkey
    rw [Function.update_self, List.getElem?_set]
    grind
  · rw [Function.update_of_ne hkey, if_neg fun h => hkey h.1]

/-- A caller that comes to another phase stays in its cell. -/
theorem joined_move (ha : (u.callers key)[i]? = some a) (hv : v.callers = u.move key i a phase) :
    v.Joined = u.Joined := by
  funext key' cell generation
  unfold Joined
  simp only [List.mem_iff_getElem?, hv, getElem?_move ha]
  grind

theorem stands_move (ha : (u.callers key)[i]? = some a) (hv : v.callers = u.move key i a phase)
    {j : Nat} : v.Stands key' j cell phase' ↔
      (key' = key ∧ j = i) ∧ a.cell = cell ∧ phase = phase' ∨
        ¬ (key' = key ∧ j = i) ∧ u.Stands key' j cell phase' := by
  unfold Stands
  rw [hv, getElem?_move ha]
  split
  · next h => simp [h]
  · next h => simp [h]

end Move

/-! ### Interleavings -/

variable [Std.TransOrd α]

def join (u : Flights α β) (key : α) : Flights α β :=
  let (cell, cache) := u.cache.join key
  { u with
    cache
    callers := Function.update u.callers key
      (u.callers key ++ [{ cell, generation := u.evictions key }]) }

def evict (u : Flights α β) (key : α) : Flights α β :=
  { u with
    cache := (u.cache.evict key).2
    evictions := Function.update u.evictions key (u.evictions key + 1) }

/-- Evicts all keys. -/
def clear (u : Flights α β) : Flights α β :=
  { u with cache := u.cache.clear, evictions := fun key => u.evictions key + 1 }

def step? (u : Flights α β) : FlightStep α β → Option (Flights α β)
  | .join key => some (u.join key)
  | .start key i => u.start? key i
  | .finish key i value => u.finish? key i value
  | .resume key i => u.resume? key i
  | .evict key => some (u.evict key)
  | .clear => some u.clear

def run? (u : Flights α β) (steps : List (FlightStep α β)) : Option (Flights α β) :=
  steps.foldlM step? u

theorem run?_concat (u : Flights α β) (steps : List (FlightStep α β)) (step : FlightStep α β) :
    u.run? (steps ++ [step]) = (u.run? steps).bind fun v => v.step? step := by
  unfold run?
  rw [List.foldlM_append, Option.bind_eq_bind]
  refine congrArg _ (funext fun v => ?_)
  rw [List.foldlM_cons]
  cases v.step? step <;> rfl

/-- What steps keep holds after every run. -/
theorem run?_induction {P : List (FlightStep α β) → Flights α β → Prop} (hnil : P [] {})
    (hstep : ∀ steps u step v, run? {} steps = some u → P steps u → u.step? step = some v →
      P (steps ++ [step]) v)
    {steps : List (FlightStep α β)} {u : Flights α β} (h : run? {} steps = some u) :
    P steps u := by
  -- By the last step, for what precedes it is a run too.
  induction steps using List.reverseRecOn generalizing u with
  | nil =>
    obtain rfl := Option.some.inj h
    exact hnil
  | append_singleton steps step ih =>
    rw [run?_concat, Option.bind_eq_some_iff] at h
    obtain ⟨w, hw, hlast⟩ := h
    exact hstep steps w step u hw (ih hw) hlast

/-! ## What holds in every interleaving -/

/-- Callers share a cell just when they joined it for one key between the same evictions. The
current cell of a key is that of the callers since the last one. -/
structure Placed (u : Flights α β) : Prop where
  cell_lt : ∀ key cell generation, u.Joined key cell generation → cell < u.cache.next
  generation_le : ∀ key cell generation, u.Joined key cell generation →
    generation ≤ u.evictions key
  apart : ∀ key cell generation key' cell' generation', u.Joined key cell generation →
    u.Joined key' cell' generation' → (cell = cell' ↔ key = key' ∧ generation = generation')
  current : ∀ key cell, u.cache.current[key]? = some cell ↔ u.Joined key cell (u.evictions key)

/-- An operation is started for a cell once; while it is under way the cell is busy, and then it
keeps the value that the operation came to. -/
structure Kept (u : Flights α β) : Prop where
  started_lt : ∀ cell ∈ u.started, cell < u.cache.next
  once : u.started.Nodup
  busy : ∀ cell, cell ∈ u.busy ↔ cell ∈ u.started ∧ u.cache.value? cell = none
  value : ∀ cell value, u.cache.value? cell = some value ↔ (cell, value) ∈ u.finished
  finished : ∀ cell value, (cell, value) ∈ u.finished → cell ∈ u.started
  ended : (u.finished.map Prod.fst).Nodup

/-- One caller runs the operation of a busy cell. Callers return the values of their cells. -/
structure Phased (u : Flights α β) : Prop where
  running : ∀ key i cell, u.Stands key i cell .running → cell ∈ u.busy
  alone : ∀ key i key' j cell, u.Stands key i cell .running → u.Stands key' j cell .running →
    key = key' ∧ i = j
  runner : ∀ cell ∈ u.busy, ∃ key i, u.Stands key i cell .running
  returned : ∀ key i cell value, u.Stands key i cell (.returned value) →
    u.cache.value? cell = some value

structure Coherent (u : Flights α β) : Prop extends Placed u, Kept u, Phased u

omit [DecidableEq α] in
theorem coherent_empty : Coherent ({} : Flights α β) where
  cell_lt := by simp [Joined]
  generation_le := by simp [Joined]
  apart := by simp [Joined]
  current := by simp [Joined]
  started_lt := by simp
  once := List.nodup_nil
  busy := by simp
  value := by simp [InFlight.value?]
  finished := by simp
  ended := List.nodup_nil
  running := by simp [Stands]
  alone := by simp [Stands]
  runner := by simp
  returned := by simp [Stands]

/-! ### Steps that fill no cell -/

omit [DecidableEq α] in
/-- Callers stay in their cells while they go on. -/
theorem Placed.move (hu : u.Placed) (hjoined : v.Joined = u.Joined)
    (hcurrent : v.cache.current = u.cache.current) (hnext : v.cache.next = u.cache.next)
    (hevictions : v.evictions = u.evictions) : v.Placed where
  cell_lt := by
    rw [hjoined, hnext]
    exact hu.cell_lt
  generation_le := by
    rw [hjoined, hevictions]
    exact hu.generation_le
  apart := by
    rw [hjoined]
    exact hu.apart
  current := by
    rw [hjoined, hcurrent, hevictions]
    exact hu.current

omit [DecidableEq α] [Std.TransOrd α] in
/-- More cells do not matter, nor do their keys. -/
theorem Kept.of_values (hu : u.Kept)
    (hvalue : ∀ cell, v.cache.value? cell = u.cache.value? cell)
    (hnext : u.cache.next ≤ v.cache.next) (hbusy : v.busy = u.busy)
    (hstarted : v.started = u.started) (hfinished : v.finished = u.finished) : v.Kept where
  started_lt := by
    intro cell hcell
    rw [hstarted] at hcell
    exact (hu.started_lt cell hcell).trans_le hnext
  once := by
    rw [hstarted]
    exact hu.once
  busy := by
    intro cell
    rw [hbusy, hstarted, hvalue]
    exact hu.busy cell
  value := by
    intro cell value
    rw [hvalue, hfinished]
    exact hu.value cell value
  finished := by
    rw [hstarted, hfinished]
    exact hu.finished
  ended := by
    rw [hfinished]
    exact hu.ended

omit [DecidableEq α] [Std.TransOrd α] in
/-- Callers that only wait do not matter. -/
theorem Phased.of_values (hu : u.Phased)
    (hvalue : ∀ cell, v.cache.value? cell = u.cache.value? cell) (hbusy : v.busy = u.busy)
    (hstands : ∀ phase ≠ .joined, ∀ key i cell,
      v.Stands key i cell phase ↔ u.Stands key i cell phase) : v.Phased where
  running := by
    intro key i cell h
    rw [hbusy]
    exact hu.running key i cell ((hstands .running nofun key i cell).mp h)
  alone := by
    intro key₁ i₁ key₂ i₂ cell h₁ h₂
    rw [hstands .running nofun] at h₁ h₂
    exact hu.alone key₁ i₁ key₂ i₂ cell h₁ h₂
  runner := by
    intro cell hcell
    rw [hbusy] at hcell
    obtain ⟨key, i, h⟩ := hu.runner cell hcell
    exact ⟨key, i, (hstands .running nofun key i cell).mpr h⟩
  returned := by
    intro key i cell value h
    rw [hvalue]
    exact hu.returned key i cell value ((hstands (.returned value) nofun key i cell).mp h)

/-! ### An operation starts -/

variable {a : Caller β}

omit [DecidableEq α] [Std.TransOrd α] in
/-- A cell that is empty had no operation yet. -/
theorem Kept.start (hu : u.Kept) (hlt : cell < u.cache.next) (hempty : u.cellState cell = .empty)
    (callers : α → List (Caller β)) :
    Kept { u with busy := insert cell u.busy, callers, started := u.started ++ [cell] } := by
  obtain ⟨hvalue, hidle⟩ := cellState_eq_empty.mp hempty
  have hfresh : cell ∉ u.started := fun h => hidle ((hu.busy cell).mpr ⟨h, hvalue⟩)
  exact {
    started_lt := by
      intro other hother
      rcases List.mem_append.mp hother with hold | hnew
      · exact hu.started_lt other hold
      · rw [List.mem_singleton.mp hnew]
        exact hlt
    once := by
      refine List.nodup_append.mpr ⟨hu.once, List.nodup_singleton _, ?_⟩
      intro other hother last hlast heq
      rw [heq, List.mem_singleton.mp hlast] at hother
      exact hfresh hother
    busy := by
      intro other
      have := hu.busy other
      grind
    value := hu.value
    finished := by
      intro other value hother
      exact List.mem_append_left _ (hu.finished other value hother)
    ended := hu.ended }

omit [Std.TransOrd α] in
/-- Nobody else runs the operation of a cell that was not busy. -/
theorem Phased.start (hu : u.Phased) (ha : (u.callers key)[i]? = some a)
    (hphase : a.phase = .joined) (hidle : a.cell ∉ u.busy) (started : List Nat) :
    Phased { u with
      busy := insert a.cell u.busy, callers := u.move key i a .running, started } where
  running := by
    intro key' j cell h
    rcases (stands_move ha rfl).mp h with ⟨-, rfl, -⟩ | ⟨-, hother⟩
    · exact Finset.mem_insert_self _ _
    · exact Finset.mem_insert_of_mem (hu.running key' j cell hother)
  alone := by
    intro key₁ i₁ key₂ i₂ cell h₁ h₂
    -- Whichever of the two moved, the other one would run the operation of a busy cell.
    rw [stands_move ha rfl] at h₁ h₂
    have hrunning := hu.running
    have halone := hu.alone key₁ i₁ key₂ i₂ cell
    grind
  runner := by
    intro cell hcell
    rcases Finset.mem_insert.mp hcell with rfl | hold
    · exact ⟨key, i, (stands_move ha rfl).mpr (Or.inl ⟨⟨rfl, rfl⟩, rfl, rfl⟩)⟩
    · obtain ⟨key', j, h⟩ := hu.runner cell hold
      have hother := ne_of_stands ha h (Or.inr (by simp [hphase]))
      exact ⟨key', j, (stands_move ha rfl).mpr (Or.inr ⟨hother, h⟩)⟩
  returned := by
    intro key' j cell value h
    rcases (stands_move ha rfl).mp h with ⟨-, -, hreturned⟩ | ⟨-, hother⟩
    · cases hreturned
    · exact hu.returned key' j cell value hother

theorem Coherent.start (hu : u.Coherent) (ha : (u.callers key)[i]? = some a)
    (hphase : a.phase = .joined) (hempty : u.cellState a.cell = .empty) :
    Coherent { u with
      busy := insert a.cell u.busy
      callers := u.move key i a .running
      started := u.started ++ [a.cell] } where
  toPlaced := hu.toPlaced.move (joined_move ha rfl) rfl rfl rfl
  toKept := by
    have hjoined : u.Joined key a.cell a.generation := ⟨a, List.mem_of_getElem? ha, rfl, rfl⟩
    exact hu.toKept.start (hu.cell_lt key a.cell a.generation hjoined) hempty _
  toPhased := hu.toPhased.start ha hphase (cellState_eq_empty.mp hempty).2 _

/-! ### An operation comes to a value -/

omit [DecidableEq α] [Std.TransOrd α] in
/-- A cell that is busy has no value yet. -/
theorem Kept.finish (hu : u.Kept) (hbusy : cell ∈ u.busy) (value : β)
    (callers : α → List (Caller β)) :
    Kept { u with
      cache := u.cache.fill cell value
      busy := u.busy.erase cell
      callers
      finished := u.finished ++ [(cell, value)] } := by
  obtain ⟨hstarted, hempty⟩ := (hu.busy cell).mp hbusy
  have hnew : ∀ kept, (cell, kept) ∉ u.finished := by
    intro kept hkept
    rw [(hu.value cell kept).mpr hkept] at hempty
    cases hempty
  exact {
    started_lt := hu.started_lt
    once := hu.once
    busy := by
      intro other
      have := hu.busy other
      rw [Finset.mem_erase, InFlight.value?_fill]
      grind
    value := by
      intro other kept
      have hvalue := hu.value other kept
      have hnew := hnew kept
      rw [InFlight.value?_fill]
      grind
    finished := by
      intro other kept hother
      rcases List.mem_append.mp hother with hold | hlast
      · exact hu.finished other kept hold
      · obtain ⟨rfl, rfl⟩ := Prod.mk.inj (List.mem_singleton.mp hlast)
        exact hstarted
    ended := by
      rw [List.map_append, List.nodup_append]
      refine ⟨hu.ended, List.nodup_singleton _, ?_⟩
      intro other hother last hlast heq
      obtain ⟨⟨_, kept⟩, hkept, rfl⟩ := List.mem_map.mp hother
      rw [List.mem_singleton.mp hlast] at heq
      subst heq
      exact hnew kept hkept }

omit [Std.TransOrd α] in
/-- The callers that are still running are those of other cells. -/
theorem Phased.finish (hu : u.Phased) (ha : (u.callers key)[i]? = some a)
    (hphase : a.phase = .running) (hempty : u.cache.value? a.cell = none) (value : β)
    (finished : List (Nat × β)) :
    Phased { u with
      cache := u.cache.fill a.cell value
      busy := u.busy.erase a.cell
      callers := u.move key i a .joined
      finished } where
  running := by
    intro key' j cell h
    rcases (stands_move ha rfl).mp h with ⟨-, -, hjoined⟩ | ⟨hne, hother⟩
    · cases hjoined
    · refine Finset.mem_erase.mpr ⟨?_, hu.running key' j cell hother⟩
      -- Two callers would run the operation of the same cell.
      rintro rfl
      exact hne (hu.alone key' j key i a.cell hother ⟨a, ha, rfl, hphase⟩)
  alone := by
    intro key₁ i₁ key₂ i₂ cell h₁ h₂
    rw [stands_move ha rfl] at h₁ h₂
    have halone := hu.alone key₁ i₁ key₂ i₂ cell
    grind
  runner := by
    intro cell hcell
    obtain ⟨hne, hbusy⟩ := Finset.mem_erase.mp hcell
    obtain ⟨key', j, h⟩ := hu.runner cell hbusy
    have hother := ne_of_stands ha h (Or.inl hne.symm)
    exact ⟨key', j, (stands_move ha rfl).mpr (Or.inr ⟨hother, h⟩)⟩
  returned := by
    intro key' j cell kept h
    rcases (stands_move ha rfl).mp h with ⟨-, -, hjoined⟩ | ⟨-, hother⟩
    · cases hjoined
    · -- Nobody has returned from the cell that is filled just now.
      have hkept := hu.returned key' j cell kept hother
      have hne : a.cell ≠ cell := by
        intro heq
        rw [heq, hkept] at hempty
        cases hempty
      rw [InFlight.value?_fill, if_neg hne]
      exact hkept

/-- The operation of a cell comes to a value. The caller that runs it is the only one. -/
theorem Coherent.finish (hu : u.Coherent) (ha : (u.callers key)[i]? = some a)
    (hphase : a.phase = .running) (value : β) :
    Coherent { u with
      cache := u.cache.fill a.cell value
      busy := u.busy.erase a.cell
      callers := u.move key i a .joined
      finished := u.finished ++ [(a.cell, value)] } := by
  have hbusy : a.cell ∈ u.busy := hu.running key i a.cell ⟨a, ha, rfl, hphase⟩
  exact {
    toPlaced := hu.toPlaced.move (joined_move ha rfl) rfl rfl rfl
    toKept := hu.toKept.finish hbusy value _
    toPhased := hu.toPhased.finish ha hphase ((hu.busy a.cell).mp hbusy).2 value _ }

/-! ### A caller returns -/

omit [Std.TransOrd α] in
theorem Phased.resume (hu : u.Phased) (ha : (u.callers key)[i]? = some a)
    (hphase : a.phase = .joined) {value : β} (hvalue : u.cache.value? a.cell = some value) :
    Phased { u with callers := u.move key i a (.returned value) } where
  running := by
    intro key' j cell h
    rcases (stands_move ha rfl).mp h with ⟨-, -, hreturned⟩ | ⟨-, hother⟩
    · cases hreturned
    · exact hu.running key' j cell hother
  alone := by
    intro key₁ i₁ key₂ i₂ cell h₁ h₂
    rw [stands_move ha rfl] at h₁ h₂
    have halone := hu.alone key₁ i₁ key₂ i₂ cell
    grind
  runner := by
    intro cell hcell
    obtain ⟨key', j, h⟩ := hu.runner cell hcell
    have hother := ne_of_stands ha h (Or.inr (by simp [hphase]))
    exact ⟨key', j, (stands_move ha rfl).mpr (Or.inr ⟨hother, h⟩)⟩
  returned := by
    intro key' j cell kept h
    rcases (stands_move ha rfl).mp h with ⟨-, rfl, hreturned⟩ | ⟨-, hother⟩
    · cases hreturned
      exact hvalue
    · exact hu.returned key' j cell kept hother

theorem Coherent.resume (hu : u.Coherent) (ha : (u.callers key)[i]? = some a)
    (hphase : a.phase = .joined) {value : β} (hvalue : u.cache.value? a.cell = some value) :
    Coherent { u with callers := u.move key i a (.returned value) } where
  toPlaced := hu.toPlaced.move (joined_move ha rfl) rfl rfl rfl
  toKept := hu.toKept.of_values (fun _ => rfl) le_rfl rfl rfl rfl
  toPhased := hu.toPhased.resume ha hphase hvalue

/-! ### A caller joins -/

theorem callers_join : (u.join key).callers = Function.update u.callers key
    (u.callers key ++ [{ cell := (u.cache.join key).1, generation := u.evictions key }]) :=
  rfl

theorem joined_join {generation : Nat} : (u.join key).Joined key' cell generation ↔
    u.Joined key' cell generation ∨
      key' = key ∧ cell = (u.cache.join key).1 ∧ generation = u.evictions key := by
  unfold Joined
  rw [callers_join]
  by_cases hkey : key' = key
  · subst hkey
    simp only [Function.update_self, List.mem_append, List.mem_singleton, or_and_right, exists_or,
      exists_eq_left]
    grind
  · simp only [Function.update_of_ne hkey]
    grind

/-- Whoever joins does not run an operation yet. -/
theorem stands_join {phase : CallerPhase β} (hphase : phase ≠ .joined) {j : Nat} :
    (u.join key).Stands key' j cell phase ↔ u.Stands key' j cell phase := by
  unfold Stands
  rw [callers_join]
  by_cases hkey : key' = key
  · subst hkey
    simp only [Function.update_self]
    grind
  · simp only [Function.update_of_ne hkey]

omit [DecidableEq α] in
/-- A caller finds the cell of those that joined since the last eviction, or opens one. -/
theorem Placed.eq_fst_join_iff (hu : u.Placed) {generation : Nat}
    (h : u.Joined key' cell generation) :
    cell = (u.cache.join key).1 ↔ key' = key ∧ generation = u.evictions key := by
  rw [InFlight.fst_join]
  cases hcurrent : u.cache.current[key]? with
  | some current =>
    have hjoined := (hu.current key current).mp hcurrent
    exact hu.apart key' cell generation key current _ h hjoined
  | none =>
    -- The cell that is opened is a new one, and nobody is of the present generation.
    have hlt := hu.cell_lt key' cell generation h
    constructor
    · intro heq
      exact absurd heq hlt.ne
    · rintro ⟨rfl, rfl⟩
      rw [(hu.current _ _).mpr h] at hcurrent
      cases hcurrent

variable [Std.LawfulEqOrd α]

theorem Placed.join (hu : u.Placed) (key : α) : (u.join key).Placed where
  cell_lt := by
    intro key' cell generation h
    show cell < (u.cache.join key).2.next
    rw [InFlight.next_join]
    rcases joined_join.mp h with hold | ⟨-, rfl, -⟩
    · have hlt := hu.cell_lt key' cell generation hold
      split <;> omega
    · rw [InFlight.fst_join]
      cases hcurrent : u.cache.current[key]? with
      | some current => exact hu.cell_lt key current _ ((hu.current key current).mp hcurrent)
      | none => exact Nat.lt_succ_self _
  generation_le := by
    intro key' cell generation h
    show generation ≤ u.evictions key'
    rcases joined_join.mp h with hold | ⟨rfl, -, rfl⟩
    · exact hu.generation_le key' cell generation hold
    · exact le_rfl
  apart := by
    intro key₁ cell₁ generation₁ key₂ cell₂ generation₂ h₁ h₂
    -- Each of the two is the caller that joins, or joined before.
    rcases joined_join.mp h₁ with hold₁ | ⟨rfl, rfl, rfl⟩
    · rcases joined_join.mp h₂ with hold₂ | ⟨rfl, rfl, rfl⟩
      · exact hu.apart key₁ cell₁ generation₁ key₂ cell₂ generation₂ hold₁ hold₂
      · exact hu.eq_fst_join_iff hold₁
    · rcases joined_join.mp h₂ with hold₂ | ⟨rfl, rfl, rfl⟩
      · rw [eq_comm, hu.eq_fst_join_iff hold₂, eq_comm, eq_comm (a := generation₂)]
      · simp
  current := by
    intro key' cell
    show (u.cache.join key).2.current[key']? = some cell ↔
      (u.join key).Joined key' cell (u.evictions key')
    rw [InFlight.current_join, joined_join]
    split
    · next hkey =>
      subst hkey
      rw [Option.some.injEq]
      constructor
      · intro h
        exact Or.inr ⟨rfl, h.symm, rfl⟩
      · rintro (hold | ⟨-, h, -⟩)
        · exact ((hu.eq_fst_join_iff hold).mpr ⟨rfl, rfl⟩).symm
        · exact h.symm
    · next hkey =>
      rw [hu.current key' cell]
      simp [hkey]

theorem Coherent.join (hu : u.Coherent) (key : α) : (u.join key).Coherent := by
  have hvalue : ∀ cell, (u.join key).cache.value? cell = u.cache.value? cell :=
    fun _ => InFlight.value?_join ..
  have hnext : u.cache.next ≤ (u.join key).cache.next := by
    show _ ≤ (u.cache.join key).2.next
    rw [InFlight.next_join]
    split <;> omega
  exact {
    toPlaced := hu.toPlaced.join key
    toKept := hu.toKept.of_values hvalue hnext rfl rfl rfl
    toPhased := hu.toPhased.of_values hvalue rfl fun _ hphase _ _ _ => stands_join hphase }

/-! ### Keys are evicted -/

omit [DecidableEq α] [Std.LawfulEqOrd α] in
/-- A key that is evicted has no cell until someone joins. -/
theorem Placed.drop (hu : u.Placed) {cache : InFlight α β} {evictions : α → Nat}
    (hnext : cache.next = u.cache.next)
    (hkeys : ∀ key, cache.current[key]? = u.cache.current[key]? ∧
        evictions key = u.evictions key ∨
      cache.current[key]? = none ∧ evictions key = u.evictions key + 1) :
    Placed { u with cache, evictions } where
  cell_lt := by
    intro key cell generation h
    show cell < cache.next
    rw [hnext]
    exact hu.cell_lt key cell generation h
  generation_le := by
    intro key cell generation h
    have hle := hu.generation_le key cell generation h
    show generation ≤ evictions key
    rcases hkeys key with ⟨-, heq⟩ | ⟨-, heq⟩ <;> omega
  apart := hu.apart
  current := by
    intro key cell
    show cache.current[key]? = some cell ↔ u.Joined key cell (evictions key)
    rcases hkeys key with ⟨hsame, heq⟩ | ⟨hnone, heq⟩
    · rw [hsame, heq]
      exact hu.current key cell
    · -- Nobody has joined since the eviction.
      rw [hnone, heq]
      simp only [reduceCtorEq, false_iff]
      intro h
      have hle := hu.generation_le key cell _ h
      omega

omit [DecidableEq α] [Std.LawfulEqOrd α] in
/-- Everything else goes on, as the cells and their values stay. -/
theorem Coherent.drop (hu : u.Coherent) {cache : InFlight α β} {evictions : α → Nat}
    (hvalues : cache.values = u.cache.values) (hnext : cache.next = u.cache.next)
    (hkeys : ∀ key, cache.current[key]? = u.cache.current[key]? ∧
        evictions key = u.evictions key ∨
      cache.current[key]? = none ∧ evictions key = u.evictions key + 1) :
    Coherent { u with cache, evictions } := by
  have hvalue : ∀ cell, cache.value? cell = u.cache.value? cell := by
    intro cell
    unfold InFlight.value?
    rw [hvalues]
  exact {
    toPlaced := hu.toPlaced.drop hnext hkeys
    toKept := hu.toKept.of_values hvalue hnext.ge rfl rfl rfl
    toPhased := hu.toPhased.of_values hvalue rfl fun _ _ _ _ _ => Iff.rfl }

theorem Coherent.evict (hu : u.Coherent) (key : α) : (u.evict key).Coherent := by
  refine hu.drop rfl rfl fun key' => ?_
  rw [InFlight.current_evict, Function.update_apply]
  by_cases h : key' = key
  · subst h
    simp
  · simp [h]

omit [DecidableEq α] [Std.LawfulEqOrd α] in
theorem Coherent.clear (hu : u.Coherent) : u.clear.Coherent :=
  hu.drop rfl rfl fun _ => Or.inr ⟨by simp [InFlight.clear], rfl⟩

/-! ### Every interleaving -/

theorem Coherent.step (hu : u.Coherent) {step : FlightStep α β} (h : u.step? step = some v) :
    v.Coherent := by
  cases step with
  | join key =>
    obtain rfl := Option.some.inj h
    exact hu.join key
  | start key i =>
    obtain ⟨a, ha, hphase, hempty, rfl⟩ := start?_eq_some.mp h
    exact hu.start ha hphase hempty
  | finish key i value =>
    obtain ⟨a, ha, hphase, rfl⟩ := finish?_eq_some.mp h
    exact hu.finish ha hphase value
  | resume key i =>
    obtain ⟨a, value, ha, hphase, hfilled, rfl⟩ := resume?_eq_some.mp h
    exact hu.resume ha hphase (cellState_eq_filled.mp hfilled)
  | evict key =>
    obtain rfl := Option.some.inj h
    exact hu.evict key
  | clear =>
    obtain rfl := Option.some.inj h
    exact hu.clear

theorem coherent_of_run {steps : List (FlightStep α β)} (h : run? {} steps = some u) :
    u.Coherent :=
  run?_induction (P := fun _ u => u.Coherent) coherent_empty
    (fun _ _ _ _ _ hu hstep => hu.step hstep) h

end Flights

end SceneCompiler
