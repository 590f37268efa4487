import Mathlib
import SceneCompiler.Markup.ClassName
import SceneCompiler.Proofs.Table
/-!
# Classes of nodes

Numbers are tried until a class is free, at most one more than there are taken classes; so one of
them is free, and no two nodes get the same class.

* `freshClass_notMem`: the class that is chosen is free.
* `ClassTable.Apart.add`: one node more.
* `exists_class`, `classNames_inj`: every recorded node of a tree has a class of its own.
-/

namespace SceneCompiler

/-! ## The choice of a class -/

/-- Different numbers make different classes, also where the number is not written. -/
theorem numberedClass_injective (base : List Char) :
    Function.Injective (numberedClass base) := by
  have hwritten : ∀ number, base ≠ base ++ '-' :: decimalDigits number := fun number h => by
    simpa using congrArg List.length h
  intro i j h
  have hchars := String.ofList_injective h
  by_cases hi : i = 1 <;> by_cases hj : j = 1
  · rw [hi, hj]
  · rw [if_pos hi, if_neg hj] at hchars
    exact absurd hchars (hwritten j)
  · rw [if_neg hi, if_pos hj] at hchars
    exact absurd hchars.symm (hwritten i)
  · rw [if_neg hi, if_neg hj] at hchars
    have hdigits : Nat.toDigits 10 i = Nat.toDigits 10 j :=
      (List.cons.inj (List.append_cancel_left hchars)).2
    simpa using congrArg (fun digits => Nat.ofDigitChars 10 digits 0) hdigits

/-- The search ends with a free class, or has met taken ones only. -/
theorem freshClass_notMem_or (taken : Std.ExtTreeSet String) (base : List Char)
    (tries number : Nat) : freshClass taken base tries number ∉ taken
      ∨ ∀ k ≤ tries, numberedClass base (number + k) ∈ taken := by
  induction tries generalizing number with
  | zero =>
    refine (em (numberedClass base number ∈ taken)).symm.imp id fun h k hk => ?_
    rwa [Nat.le_zero.mp hk]
  | succ tries ih =>
    rw [freshClass]
    split
    · next hfirst =>
      refine (ih (number + 1)).imp id fun h k hk => ?_
      cases k with
      | zero => exact hfirst
      | succ k => simpa only [Nat.add_assoc, Nat.add_comm 1 k] using h k (by omega)
    · next hfirst => exact Or.inl hfirst

/-- As many numbers as there are taken classes, and the one at the end, have a free class among
them. -/
theorem freshClass_notMem (taken : Std.ExtTreeSet String) (base : List Char) (number : Nat) :
    freshClass taken base taken.size number ∉ taken := by
  refine (freshClass_notMem_or taken base taken.size number).resolve_right fun h => ?_
  let tried := (List.range (taken.size + 1)).map fun k => numberedClass base (number + k)
  have hnodup : tried.Nodup :=
    List.nodup_range.map fun _ _ h => Nat.add_left_cancel (numberedClass_injective base h)
  have htaken : tried ⊆ taken.toList := by
    intro c hc
    obtain ⟨k, hk, rfl⟩ := List.mem_map.mp hc
    exact Std.ExtTreeSet.mem_toList.mpr (h k (Nat.lt_succ_iff.mp (List.mem_range.mp hk)))
  have hlength := (List.subperm_of_subset hnodup htaken).length_le
  rw [Std.ExtTreeSet.length_toList, List.length_map, List.length_range] at hlength
  omega

/-! ## Tables -/

namespace ClassTable

variable {table : ClassTable}

theorem classes_add (table : ClassTable) (n : VisibleNode) (id : NodeId) :
    (table.add n).classes[id]? =
      if n.id = id then some (freshClass table.taken (baseClass n) table.taken.size 1)
      else table.classes[id]? := by
  simp only [add, Std.ExtTreeMap.getElem?_insert, Std.compare_eq_iff_eq]

/-- The classes of a table are taken, and no two nodes have the same. -/
structure Apart (table : ClassTable) : Prop where
  taken : ∀ (id : NodeId) (c : String), table.classes[id]? = some c → c ∈ table.taken
  inj : ∀ (id id' : NodeId) (c : String), table.classes[id]? = some c →
    table.classes[id']? = some c → id = id'

/-- One node more. -/
theorem Apart.add (h : table.Apart) (n : VisibleNode) : (table.add n).Apart := by
  have hfresh := freshClass_notMem table.taken (baseClass n) 1
  constructor
  case taken =>
    intro id c hc
    rw [classes_add] at hc
    refine Std.ExtTreeSet.mem_insert.mpr ?_
    split at hc
    · obtain rfl := Option.some.inj hc
      exact Or.inl (Std.compare_eq_iff_eq.mpr rfl)
    · exact Or.inr (h.taken id c hc)
  case inj =>
    intro id id' c hc hc'
    rw [classes_add] at hc hc'
    split at hc <;> split at hc'
    · next hid hid' => rw [← hid, hid']
    · rw [Option.some.inj hc] at hfresh
      exact absurd (h.taken id' c hc') hfresh
    · rw [Option.some.inj hc'] at hfresh
      exact absurd (h.taken id c hc) hfresh
    · exact h.inj id id' c hc hc'

theorem apart_foldl (h : table.Apart) (nodes : List VisibleNode) :
    (nodes.foldl ClassTable.add table).Apart := by
  induction nodes generalizing table with
  | nil => exact h
  | cons n rest ih => exact ih (h.add n)

end ClassTable

/-! ## The classes of a tree -/

/-- Giving out classes takes none back. -/
theorem mem_classes_foldl (nodes : List VisibleNode) :
    ∀ (table : ClassTable) (id : NodeId), (id ∈ table.classes ∨ ∃ n ∈ nodes, n.id = id) →
      id ∈ (nodes.foldl ClassTable.add table).classes := by
  induction nodes with
  | nil =>
    rintro table id (h | ⟨n, hn, -⟩)
    · exact h
    · cases hn
  | cons first rest ih =>
    intro table id h
    refine ih _ id ?_
    unfold ClassTable.add
    rw [Std.ExtTreeMap.mem_insert, Std.compare_eq_iff_eq]
    rcases h with hold | ⟨n, hn, hid⟩
    · exact Or.inl (Or.inr hold)
    · rcases List.mem_cons.mp hn with rfl | hlater
      · exact Or.inl (Or.inl hid)
      · exact Or.inr ⟨n, hlater, hid⟩

/-- Every recorded node of a tree has a class. -/
theorem exists_class {t : VisibleTree} {id : NodeId} {n : VisibleNode} (hid : id ∈ t.order)
    (hn : t.find? id = some n) (hname : n.id = id) : ∃ chosen, t.classNames[id]? = some chosen := by
  have hmem : id ∈ t.classNames := mem_classes_foldl _ _ id
    (Or.inr ⟨n, List.mem_filterMap.mpr ⟨id, hid, hn⟩, hname⟩)
  exact mem_iff_exists_getElem?.mp hmem

/-- No two nodes have the same class. -/
theorem classNames_inj {t : VisibleTree} {id id' : NodeId} {c : String}
    (hc : t.classNames[id]? = some c) (hc' : t.classNames[id']? = some c) : id = id' := by
  have hempty : ClassTable.Apart {} := ⟨by simp, by simp⟩
  exact (ClassTable.apart_foldl hempty _).inj id id' c hc hc'

end SceneCompiler
