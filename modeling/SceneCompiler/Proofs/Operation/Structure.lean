import Mathlib
import SceneCompiler.Proofs.Operation.Code
import SceneCompiler.Proofs.Operation.Selection
import SceneCompiler.Proofs.Tree.Outline
/-!
# Outlines and compiled trees

The outline of a selection and the tree that is compiled for it are made by two traversals. The
outline takes the roots as the selection has them, the tree takes each of them once. So when neither
leaves anything out they list the same nodes just when the selection has no name twice.

* `lists_order`: a tree that is not capped has all visible nodes below its roots.
* `ids_outline_eq_order_iff`: when an outline and a tree of some roots agree.
* `Session.getStructure_agrees`: the same of the operations.
-/

namespace SceneCompiler

namespace SceneGraph

variable {g : SceneGraph}

/-- A tree that is not capped has all visible nodes below its roots. -/
theorem lists_order (hg : g.Reachable) {roots : List NodeId} {policy : DepthPolicy}
    (h : (g.visibleTree roots policy).isCapped = false) :
    g.Lists (g.visibleRoots roots) (g.visibleTree roots policy).order := by
  have hdeep := level_owners_eq_nil hg roots
  have hwhole := isCapped_visibleTree hg roots policy
  rw [h, order_visibleTree hg] at hwhole
  rw [order_visibleTree hg]
  generalize (g.visibleTree roots policy).depthLimit.getD g.owners.size = d at hwhole ⊢
  -- What is not shorter than the whole listing has no level below it.
  have hnext : g.level (d + 1) (g.visibleRoots roots) = [] := by
    by_contra hsome
    exact Bool.false_ne_true (hwhole.mpr ((length_listing_lt_iff hdeep).mpr hsome))
  exact lists_listing hnext

/-- Of visible roots a tree takes each one once. -/
theorem visibleRoots_of_visible {roots : List NodeId} (hroots : ∀ id ∈ roots, g.isVisible id) :
    g.visibleRoots roots = roots.eraseDups := by
  unfold visibleRoots
  rw [List.filter_eq_self]
  intro id hid
  exact hroots id (List.mem_eraseDups.mp hid)

/-- All that is visible below some nodes is more than all that is visible below fewer of them. -/
theorem lists_ne_of_sublist {ids fewer all some : List NodeId} (hsub : fewer.Sublist ids)
    (hne : fewer ≠ ids) {deep : Nat} (hdeep : g.level deep ids = [])
    (hall : g.Lists ids all) (hsome : g.Lists fewer some) : all ≠ some := by
  have hlt : fewer.length < ids.length :=
    lt_of_le_of_ne hsub.length_le fun heq => hne (hsub.eq_of_length heq)
  have hdeep' : g.level deep fewer = [] := by
    rw [level_eq_flatMap, List.flatMap_eq_nil_iff] at hdeep ⊢
    exact fun id hid => hdeep id (hsub.subset hid)
  have hlisting := (lists_listing (level_eq_nil_of_le (Nat.le_succ _) hdeep)).unique hall
  have hlisting' := (lists_listing (level_eq_nil_of_le (Nat.le_succ _) hdeep')).unique hsome
  have hlength := length_listing_of_sublist (g := g) hsub deep
  intro heq
  rw [hlisting, hlisting', heq] at hlength
  omega

/-- An outline and a tree of the same visible roots, neither of which leaves anything out, list the
same nodes just when no root is there twice. -/
theorem ids_outline_eq_order_iff (hg : g.Reachable) {roots : List NodeId}
    (hroots : ∀ id ∈ roots, g.isVisible id) {depth : Option Nat} {limits : Limits}
    {policy : DepthPolicy} (houtline : (g.outline roots depth limits).truncated = false)
    (htree : (g.visibleTree roots policy).isCapped = false) :
    (g.outline roots depth limits).ids = (g.visibleTree roots policy).order ↔ roots.Nodup := by
  obtain ⟨rank, hrank⟩ := hg.exists_ranked
  have hall := lists_of_not_truncated hg hroots houtline
  have hsome := lists_order hg htree
  rw [visibleRoots_of_visible hroots] at hsome
  rw [← eraseDups_eq_self_iff]
  constructor
  · intro heq
    by_contra hne
    have hdeep := level_eq_nil_of_rank hrank hroots fun id _ => hrank.le id
    exact lists_ne_of_sublist (eraseDups_sublist roots) hne hdeep hall hsome heq
  · intro heq
    rw [heq] at hsome
    exact hall.unique hsome

end SceneGraph

namespace Session

variable {m : Type → Type} [Monad m] [LawfulMonad m] {s : Session m} {c : Caches m}
variable {g : SceneGraph}

/-- The outline of what a selector means, and the tree that is compiled for it: neither fails unless
the selector means nothing, and if neither leaves anything out they list the same nodes just when
what it means has no name twice. -/
theorem getStructure_agrees (hg : g.Reachable) (hscene : Answers s.scene (.ok g)) (q : CodeRequest)
    (depth : Option Nat) :
    Ensures (s.getStructure q.selector depth).run c fun outcome d => d = c
      ∧ (∀ e, g.resolveSelection q.selector = .error e → outcome = .error e)
      ∧ ∀ roots, g.resolveSelection q.selector = .ok roots → ∃ o, outcome = .ok o
        ∧ (o.truncated = false → (q.treeIn g roots).isCapped = false →
          (o.ids = (q.treeIn g roots).order ↔ roots.Nodup)) := by
  unfold getStructure
  refine (currentSelection_ensures q.selector hscene).run_bind ?_ ?_
  · intro selection d hselection
    obtain ⟨rfl, shown, rfl, heq⟩ := hselection
    obtain ⟨g', found⟩ := selection
    obtain ⟨hshown, hfound⟩ := selectionIn_eq_ok.mp heq.symm
    obtain rfl := Except.ok.inj hshown
    have husable := (SceneGraph.usable_of_resolveSelection hfound).2
    have hvisible : ∀ id ∈ found, g.isVisible id := fun id hid =>
      SceneGraph.isVisible_of_isEffectivelyVisible hg (husable id hid)
    refine ensures_run_pure ⟨rfl, ?_, ?_⟩
    · intro e he
      rw [hfound] at he
      cases he
    · intro roots hroots
      obtain rfl := Except.ok.inj (hfound.symm.trans hroots)
      exact ⟨_, rfl, SceneGraph.ids_outline_eq_order_iff hg hvisible⟩
  · intro e d hselection
    obtain ⟨rfl, shown, rfl, heq⟩ := hselection
    have hfailed : g.resolveSelection q.selector = .error e := by
      cases hfound : g.resolveSelection q.selector with
      | ok roots =>
        simp [selectionIn, hfound, Except.map] at heq
      | error e' =>
        simp only [selectionIn, hfound, Except.map, Except.error.injEq] at heq
        rw [heq]
    refine ⟨rfl, ?_, ?_⟩
    · intro e' he'
      obtain rfl := Except.error.inj (hfailed.symm.trans he')
      rfl
    · intro roots hroots
      rw [hfailed] at hroots
      cases hroots

/-! ### A row that is selected twice -/

/-- The outline that a host with nothing but a scene gets. -/
theorem getStructure_showing (g : SceneGraph) (selector : Option (List NodeId))
    (depth : Option Nat) (c : Caches Id) :
    ((showing g).getStructure selector depth).run c
      = ((g.resolveSelection selector).map fun roots => g.outline roots depth {}, c) := by
  unfold getStructure currentSelection
  rw [show (showing g).currentScene = pure g from rfl, pure_bind]
  cases g.resolveSelection selector with
  | ok roots => rfl
  | error e => rfl

/-- A request for some rows of a frame. -/
def rowsRequest (ids : List NodeId) : CodeRequest where
  selector := some ids

/-- The first row once: the outline and the tree have the row and its cells. -/
theorem getStructure_agrees_once :
    SceneGraph.twoRows.Reachable ∧ Answers (showing SceneGraph.twoRows).scene (.ok .twoRows)
      ∧ ∃ o, (((showing .twoRows).getStructure (some [⟨"a"⟩]) none).run {}).1 = .ok o
        ∧ o.truncated = false
        ∧ ((rowsRequest [⟨"a"⟩]).treeIn .twoRows [⟨"a"⟩]).isCapped = false
        ∧ o.ids = ((rowsRequest [⟨"a"⟩]).treeIn .twoRows [⟨"a"⟩]).order := by
  have hscene : Answers (showing SceneGraph.twoRows).scene (.ok .twoRows) := answers_id.mpr rfl
  have hroots : SceneGraph.twoRows.resolveSelection (some [⟨"a"⟩]) = .ok [⟨"a"⟩] := by rfl
  have hwhole : ((rowsRequest [⟨"a"⟩]).treeIn .twoRows [⟨"a"⟩]).isCapped = false := by
    decide +kernel
  obtain ⟨-, -, hfound⟩ := ensures_id.mp (getStructure_agrees (c := {})
    SceneGraph.reachable_twoRows hscene (rowsRequest [⟨"a"⟩]) none)
  obtain ⟨o, ho, hsame⟩ := hfound [⟨"a"⟩] hroots
  have hshown : o = SceneGraph.twoRows.outline [⟨"a"⟩] none {} := by
    have houtline := congrArg Prod.fst (getStructure_showing .twoRows (some [⟨"a"⟩]) none {})
    rw [hroots] at houtline
    exact Except.ok.inj (ho.symm.trans houtline)
  have huncut : o.truncated = false := by
    rw [hshown]
    decide +kernel
  exact ⟨SceneGraph.reachable_twoRows, hscene, o, ho, huncut, hwhole,
    (hsame huncut hwhole).mpr (by decide)⟩

/-- The first row twice: the outline has it and its cells twice, the tree has them once. -/
theorem getStructure_repeats_row :
    ∃ o, ((showing .twoRows).getStructure (some [⟨"a"⟩, ⟨"a"⟩]) none).run {} = (.ok o, {})
      ∧ SceneGraph.twoRows.resolveSelection (some [⟨"a"⟩, ⟨"a"⟩]) = .ok [⟨"a"⟩, ⟨"a"⟩]
      ∧ o.truncated = false ∧ o.ids = [⟨"a"⟩, ⟨"c"⟩, ⟨"d"⟩, ⟨"a"⟩, ⟨"c"⟩, ⟨"d"⟩]
      ∧ ((rowsRequest [⟨"a"⟩, ⟨"a"⟩]).treeIn .twoRows [⟨"a"⟩, ⟨"a"⟩]).isCapped = false
      ∧ ((rowsRequest [⟨"a"⟩, ⟨"a"⟩]).treeIn .twoRows [⟨"a"⟩, ⟨"a"⟩]).order
        = [⟨"a"⟩, ⟨"c"⟩, ⟨"d"⟩] := by
  have hroots : SceneGraph.twoRows.resolveSelection (some [⟨"a"⟩, ⟨"a"⟩])
      = .ok [⟨"a"⟩, ⟨"a"⟩] := by rfl
  refine ⟨SceneGraph.twoRows.outline [⟨"a"⟩, ⟨"a"⟩] none {}, ?_, hroots, by decide +kernel,
    by decide +kernel, by decide +kernel, by decide +kernel⟩
  rw [getStructure_showing, hroots]
  rfl

end Session

end SceneCompiler
