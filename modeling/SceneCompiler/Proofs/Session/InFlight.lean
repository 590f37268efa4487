import Mathlib
import SceneCompiler.Proofs.Session.Ensures
import SceneCompiler.Proofs.Table
import SceneCompiler.Session.InFlight
/-!
# Cells that agree with a function

Where every computation for a key comes to the value of a function, the cells keep nothing else: a
call gets the value of its key, whoever filled the cell.

* `Agrees.join`, `Agrees.fill`, `Agrees.evict`: what the steps keep true.
* `ensures_getOrRun_agrees`: a call for a key.
-/

namespace SceneCompiler.InFlight

variable {κ β : Type} [Ord κ] [Std.TransOrd κ] {x : InFlight κ β} {value : κ → β}

/-- The cells of the keys keep values of the function, and no cell is used twice. -/
structure Agrees (x : InFlight κ β) (value : κ → β) : Prop where
  opened : ∀ (key : κ) (cell : Nat), x.current[key]? = some cell → cell < x.next
  filled : ∀ cell : Nat, cell ∈ x.values → cell < x.next
  apart : ∀ (key key' : κ) (cell : Nat),
    x.current[key]? = some cell → x.current[key']? = some cell → key = key'
  kept : ∀ (key : κ) (cell : Nat) (kept : β),
    x.current[key]? = some cell → x.value? cell = some kept → kept = value key

theorem agrees_empty (value : κ → β) : Agrees ({} : InFlight κ β) value where
  opened := by simp
  filled := by simp
  apart := by simp
  kept := by simp

/-- A key that has no cell yet gets one that is not filled. -/
theorem Agrees.open [Std.LawfulEqOrd κ] (hx : x.Agrees value) (key : κ) :
    Agrees { x with current := x.current.insert key x.next, next := x.next + 1 } value where
  opened key' cell h := by
    rw [Std.ExtTreeMap.getElem?_insert] at h
    split at h
    · obtain rfl := Option.some.inj h
      exact Nat.lt_succ_self _
    · exact Nat.lt_succ_of_lt (hx.opened key' cell h)
  filled cell h := Nat.lt_succ_of_lt (hx.filled cell h)
  apart key₁ key₂ cell h₁ h₂ := by
    rw [Std.ExtTreeMap.getElem?_insert] at h₁ h₂
    split at h₁ <;> split at h₂
    · next h h' => exact (Std.compare_eq_iff_eq.mp h).symm.trans (Std.compare_eq_iff_eq.mp h')
    · obtain rfl := Option.some.inj h₁
      exact absurd (hx.opened key₂ x.next h₂) (lt_irrefl _)
    · obtain rfl := Option.some.inj h₂
      exact absurd (hx.opened key₁ x.next h₁) (lt_irrefl _)
    · exact hx.apart key₁ key₂ cell h₁ h₂
  kept key' cell kept h hkept := by
    rw [Std.ExtTreeMap.getElem?_insert] at h
    split at h
    · -- The new cell lies behind all that are filled.
      obtain rfl := Option.some.inj h
      have hmem : x.next ∈ x.values := mem_iff_exists_getElem?.mpr ⟨kept, hkept⟩
      exact absurd (hx.filled x.next hmem) (lt_irrefl _)
    · exact hx.kept key' cell kept h hkept

/-- Afterwards the cell that was joined is the cell of the key. -/
theorem Agrees.join [Std.LawfulEqOrd κ] (hx : x.Agrees value) (key : κ) :
    (x.join key).2.Agrees value ∧ (x.join key).2.current[key]? = some (x.join key).1 := by
  unfold InFlight.join
  split
  · next cell hcell => exact ⟨hx, hcell⟩
  · exact ⟨hx.open key, Std.ExtTreeMap.getElem?_insert_self⟩

/-- Filling the cell of a key with the value of the key. -/
theorem Agrees.fill (hx : x.Agrees value) {key : κ} {cell : Nat} (h : x.current[key]? = some cell) :
    (x.fill cell (value key)).Agrees value where
  opened := hx.opened
  filled cell' hmem := by
    rcases Std.ExtTreeMap.mem_insert.mp hmem with heq | hold
    · rw [← Std.compare_eq_iff_eq.mp heq]
      exact hx.opened key cell h
    · exact hx.filled cell' hold
  apart := hx.apart
  kept key' cell' kept h' hkept := by
    have hkept : (x.values.insert cell (value key))[cell']? = some kept := hkept
    rw [Std.ExtTreeMap.getElem?_insert] at hkept
    split at hkept
    -- No other key has the cell that is filled.
    · next heq =>
      have hcell : cell = cell' := Std.compare_eq_iff_eq.mp heq
      rw [← Option.some.inj hkept, hx.apart key key' cell h (hcell ▸ h')]
    · exact hx.kept key' cell' kept h' hkept

/-- A key that is dropped leaves the others alone. -/
theorem Agrees.evict (hx : x.Agrees value) (key : κ) : (x.evict key).2.Agrees value := by
  have hold : ∀ (key' : κ) (cell : Nat), (x.current.erase key)[key']? = some cell →
      x.current[key']? = some cell := by
    intro key' cell h
    rw [Std.ExtTreeMap.getElem?_erase] at h
    split at h
    · cases h
    · exact h
  exact {
    opened := fun key' cell h => hx.opened key' cell (hold key' cell h)
    filled := hx.filled
    apart := fun key₁ key₂ cell h₁ h₂ => hx.apart key₁ key₂ cell (hold _ _ h₁) (hold _ _ h₂)
    kept := fun key' cell kept h => hx.kept key' cell kept (hold key' cell h) }

/-- A call whose computation comes to the value of its key gets that value, and so does every later
one. -/
theorem ensures_getOrRun_agrees [Std.LawfulEqOrd κ] {m : Type → Type} [Monad m] [LawfulMonad m]
    {c : Caches m} {key : κ} {compute : CacheM m β} (hx : x.Agrees value)
    (hcompute : Ensures compute c fun a d => a = value key ∧ d = c) :
    Ensures (x.getOrRun key compute) c fun o d =>
      o.1 = value key ∧ o.2.Agrees value ∧ d = c := by
  obtain ⟨hjoined, hcell⟩ := hx.join key
  refine ensures_getOrRun ?_ fun _ => hcompute.imp ?_
  · intro a ha
    exact ⟨hjoined.kept key _ a hcell ha, hjoined, rfl⟩
  · rintro _ _ ⟨rfl, rfl⟩
    exact ⟨rfl, hjoined.fill hcell, rfl⟩

end SceneCompiler.InFlight
