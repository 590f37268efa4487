import Mathlib
import SceneCompiler.Proofs.Token.Candidates
import SceneCompiler.Proofs.Tree.Stack
import SceneCompiler.Tree.Encode
/-!
# Trees within a budget

A tree keeps all that is visible below its roots, unless that is more than the policy allows. Then
it keeps the listing down to the deepest level that the budget allows.

* `le_fittingLevels_iff`: how many levels fit.
* `deepestWithin_limit`: the depth limit is the deepest level within the budget.
* `visibleTree_keptWithin`: what a tree keeps.
-/

namespace SceneCompiler

/-! ## The limit -/

/-- Leading levels fit together when their counts add up to no more than the budget. -/
theorem le_fittingLevels_iff {budget n : Nat} {counts : List Nat} :
    n ≤ fittingLevels budget counts ↔ n ≤ counts.length ∧ (counts.take n).sum ≤ budget := by
  induction counts generalizing budget n with
  | nil => cases n <;> simp [fittingLevels]
  | cons count rest ih =>
    cases n with
    | zero => simp
    | succ n =>
      rw [List.length_cons, List.take_succ_cons, List.sum_cons, fittingLevels]
      split
      · next hle =>
        have hrest : n ≤ fittingLevels (budget - count) rest ↔
            n ≤ rest.length ∧ (rest.take n).sum ≤ budget - count := ih
        omega
      · omega

theorem limit?_eq (policy : DepthPolicy) (counts : List Nat) :
    policy.limit? counts = if counts.sum ≤ policy.capThreshold then none
      else some (fittingLevels policy.targetBudget counts - 1) := by
  rw [DepthPolicy.limit?, List.sum_eq_foldl]

namespace SceneGraph

variable {g : SceneGraph} {rank : NodeId → Nat}

/-- `limit` is the deepest level with nodes down to which the listing keeps within the budget, or
the first level where not even that one does. -/
structure DeepestWithin (g : SceneGraph) (ids : List NodeId) (budget limit : Nat) : Prop where
  fits : g.level limit ids ≠ [] ∧ (g.listing limit ids).length ≤ budget
    ∨ limit = 0 ∧ ∀ d, g.level d ids ≠ [] → budget < (g.listing d ids).length
  deepest : ∀ d, g.level d ids ≠ [] → (g.listing d ids).length ≤ budget → d ≤ limit

theorem deepestWithin_fittingLevels (hrank : g.Ranked rank) {fuel : Nat} {ids : List NodeId}
    (hids : ∀ id ∈ ids, g.isVisible id) (hle : ∀ id ∈ ids, rank id ≤ fuel) (budget : Nat) :
    g.DeepestWithin ids budget (fittingLevels budget (g.levelCounts fuel ids) - 1) := by
  -- A level fits together with those above it just when its listing keeps within the budget.
  have hfits : ∀ d, d + 1 ≤ fittingLevels budget (g.levelCounts fuel ids)
      ↔ g.level d ids ≠ [] ∧ (g.listing d ids).length ≤ budget := by
    intro d
    rw [le_fittingLevels_iff, sum_take_levelCounts hrank hids hle,
      ← lt_length_levelCounts hrank hids hle, Nat.succ_le_iff]
  constructor
  · cases hn : fittingLevels budget (g.levelCounts fuel ids) with
    | zero =>
      refine Or.inr ⟨rfl, fun d hd => ?_⟩
      by_contra hlong
      have := (hfits d).mpr ⟨hd, not_lt.mp hlong⟩
      omega
    | succ n => exact Or.inl ((hfits n).mp hn.ge)
  · intro d hd hlength
    have := (hfits d).mpr ⟨hd, hlength⟩
    omega

/-! ## Roots -/

theorem isVisible_of_mem_visibleRoots {roots : List NodeId} :
    ∀ id ∈ g.visibleRoots roots, g.isVisible id :=
  fun _ hid => (List.mem_filter.mp hid).2

theorem nodup_visibleRoots (roots : List NodeId) : (g.visibleRoots roots).Nodup :=
  (nodup_eraseDups roots).filter _

/-! ## Trees -/

/-- What a tree keeps of all that is visible below its roots, and how it is found with a stack. -/
structure KeptWithin (g : SceneGraph) (rootIds all : List NodeId) (policy : DepthPolicy)
    (t : VisibleTree) : Prop where
  whole : all.length ≤ policy.capThreshold → t.depthLimit = none ∧ t.order = all
  cut : policy.capThreshold < all.length → ∃ limit, t.depthLimit = some limit
    ∧ g.DeepestWithin rootIds policy.targetBudget limit ∧ t.order = g.listing limit rootIds
  bounded : t.order.length ≤ max policy.capThreshold (max policy.targetBudget rootIds.length)
  capped : t.isCapped = true ↔ t.order.length < all.length
  stats : t.statsToJson = .obj [("capped", .bool (t.order.length < all.length)),
    ("capped_node_ids", NodeId.listToJson t.cappedIds),
    ("depth_limit", .ofOption .ofNat t.depthLimit), ("max_depth", .ofNat t.maxDepth),
    ("total_nodes", .ofNat t.order.length)]
  counted : ∃ depths, StackPops g (rootIds.reverse.map (·, 0)) depths
    ∧ policy.limit? (histogram depths) = t.depthLimit
  walked : ∃ visits, StackWalk g t.depthLimit (entries 0 rootIds) visits
    ∧ visits.map (·.node.id) = t.order ∧ cappedNames visits = t.cappedIds

/-- The order of a tree is a listing. Without a limit it is as deep as there are names. -/
theorem order_visibleTree (hg : g.Reachable) (roots : List NodeId) (policy : DepthPolicy) :
    (g.visibleTree roots policy).order = g.listing
      ((g.visibleTree roots policy).depthLimit.getD g.owners.size) (g.visibleRoots roots) := by
  obtain ⟨rank, hrank⟩ := hg.exists_ranked
  refine order_visits hrank (fun _ _ => hg.id_of_find?) isVisible_of_mem_visibleRoots
    (fun id _ => hrank.le id) (fun l hl => ?_) fun hnone => ?_
  · rw [show (g.visibleTree roots policy).depthLimit = some l from hl]
    simp
  · rw [show (g.visibleTree roots policy).depthLimit = none from hnone]
    rfl

/-- The capped nodes of a tree are those on its last level that have children. -/
theorem cappedIds_visibleTree (hg : g.Reachable) (roots : List NodeId) (policy : DepthPolicy) :
    (g.visibleTree roots policy).cappedIds = ((g.visibleTree roots policy).depthLimit.elim []
      fun limit => g.level limit (g.visibleRoots roots)).filter
        fun id => !(g.visibleChildIds id).isEmpty := by
  obtain ⟨rank, hrank⟩ := hg.exists_ranked
  cases hlimit : (g.visibleTree roots policy).depthLimit with
  | none =>
    show cappedNames (g.visits (g.visibleTree roots policy).depthLimit _ _ _) = _
    rw [hlimit, capped_visits_none]
    rfl
  | some limit =>
    show cappedNames (g.visits (g.visibleTree roots policy).depthLimit _ _ _) = _
    rw [hlimit]
    exact capped_visits hrank (fun _ _ => hg.id_of_find?) (Nat.zero_add limit).symm
      isVisible_of_mem_visibleRoots fun id _ => hrank.le id

theorem level_owners_eq_nil (hg : g.Reachable) (roots : List NodeId) :
    g.level g.owners.size (g.visibleRoots roots) = [] := by
  obtain ⟨rank, hrank⟩ := hg.exists_ranked
  exact level_eq_nil_of_rank hrank isVisible_of_mem_visibleRoots fun id _ => hrank.le id

/-- All that is visible below some roots, in pre-order. -/
theorem lists_visibleRoots (hg : g.Reachable) (roots : List NodeId) :
    g.Lists (g.visibleRoots roots) (g.listing g.owners.size (g.visibleRoots roots)) :=
  lists_listing (level_eq_nil_of_le (Nat.le_succ _) (level_owners_eq_nil hg roots))

/-- A listing leaves something out just when there are nodes on the next level. -/
theorem length_listing_lt_iff {ids : List NodeId} {d deep : Nat} (hdeep : g.level deep ids = []) :
    (g.listing d ids).length < (g.listing deep ids).length ↔ g.level (d + 1) ids ≠ [] := by
  have hall : g.Lists ids (g.listing deep ids) :=
    lists_listing (level_eq_nil_of_le (Nat.le_succ _) hdeep)
  constructor
  · intro hlt hnil
    rw [(lists_listing hnil).unique hall] at hlt
    exact lt_irrefl _ hlt
  · intro hnext
    have hle : d + 1 ≤ deep := by
      by_contra hlong
      exact hnext (level_eq_nil_of_le (by omega) hdeep)
    have hgrow := length_listing_succ (g := g) d ids
    have hmono := length_listing_mono (g := g) hle ids
    have hpos := List.length_pos_of_ne_nil hnext
    omega

theorem isCapped_visibleTree (hg : g.Reachable) (roots : List NodeId) (policy : DepthPolicy) :
    (g.visibleTree roots policy).isCapped = true ↔ (g.visibleTree roots policy).order.length
      < (g.listing g.owners.size (g.visibleRoots roots)).length := by
  have hdeep := level_owners_eq_nil hg roots
  unfold VisibleTree.isCapped
  rw [cappedIds_visibleTree hg, order_visibleTree hg]
  cases (g.visibleTree roots policy).depthLimit with
  | none => simp
  | some limit =>
    simp only [Option.elim_some, Option.getD_some]
    rw [length_listing_lt_iff hdeep, level_succ, Ne, List.flatMap_eq_nil_iff]
    simp [List.filter_eq_nil_iff]

/-- Trees within the threshold have no limit. -/
theorem depthLimit_eq_none (hg : g.Reachable) {roots all : List NodeId} {policy : DepthPolicy}
    (hall : g.Lists (g.visibleRoots roots) all) (hle : all.length ≤ policy.capThreshold) :
    (g.visibleTree roots policy).depthLimit = none := by
  obtain ⟨rank, hrank⟩ := hg.exists_ranked
  show policy.limit? (g.levelCounts g.owners.size (g.visibleRoots roots)) = none
  have hsum : (g.levelCounts g.owners.size (g.visibleRoots roots)).sum = _ :=
    sum_levelCounts hrank isVisible_of_mem_visibleRoots fun id _ => hrank.le id
  rw [(lists_visibleRoots hg roots).unique hall] at hsum
  rw [limit?_eq, hsum, if_pos hle]

/-- Other trees have the deepest level within the budget for their limit. -/
theorem exists_depthLimit (hg : g.Reachable) {roots all : List NodeId} {policy : DepthPolicy}
    (hall : g.Lists (g.visibleRoots roots) all) (hlt : policy.capThreshold < all.length) :
    ∃ limit, (g.visibleTree roots policy).depthLimit = some limit
      ∧ g.DeepestWithin (g.visibleRoots roots) policy.targetBudget limit := by
  obtain ⟨rank, hrank⟩ := hg.exists_ranked
  have hsum : (g.levelCounts g.owners.size (g.visibleRoots roots)).sum = _ :=
    sum_levelCounts hrank isVisible_of_mem_visibleRoots fun id _ => hrank.le id
  rw [(lists_visibleRoots hg roots).unique hall] at hsum
  refine ⟨fittingLevels policy.targetBudget _ - 1, ?_, deepestWithin_fittingLevels hrank
    isVisible_of_mem_visibleRoots (fun id _ => hrank.le id) _⟩
  show policy.limit? (g.levelCounts g.owners.size (g.visibleRoots roots)) = _
  rw [limit?_eq, hsum, if_neg (not_le.mpr hlt)]

/-- A count by a stack leads to the limit of the tree. -/
theorem exists_stackPops (hg : g.Reachable) (roots : List NodeId) (policy : DepthPolicy) :
    ∃ depths, StackPops g ((g.visibleRoots roots).reverse.map (·, 0)) depths
      ∧ policy.limit? (histogram depths) = (g.visibleTree roots policy).depthLimit := by
  obtain ⟨rank, hrank⟩ := hg.exists_ranked
  have hvisible : ∀ id ∈ (g.visibleRoots roots).reverse, g.isVisible id :=
    fun id hid => isVisible_of_mem_visibleRoots id (List.mem_reverse.mp hid)
  obtain ⟨depths, hpops, hcounts⟩ := stackPops_levels hrank 0 hvisible
    (fun id _ => hrank.le id) StackPops.done
  rw [List.append_nil, List.append_nil] at hpops
  have hlevels : ∀ k, depths.count k = (g.level k (g.visibleRoots roots)).length := by
    intro k
    rw [hcounts, if_pos (Nat.zero_le k), Nat.sub_zero]
    exact (level_perm k (List.reverse_perm _)).length_eq
  refine ⟨depths, hpops, ?_⟩
  rw [histogram_eq_levelCounts hrank isVisible_of_mem_visibleRoots (fun id _ => hrank.le id)
    hlevels]
  rfl

/-- A walk by a stack makes the visits of the tree. -/
theorem exists_stackWalk (hg : g.Reachable) (roots : List NodeId) (policy : DepthPolicy) :
    ∃ visits, StackWalk g (g.visibleTree roots policy).depthLimit
        (entries 0 (g.visibleRoots roots)) visits
      ∧ visits.map (·.node.id) = (g.visibleTree roots policy).order
      ∧ cappedNames visits = (g.visibleTree roots policy).cappedIds := by
  obtain ⟨rank, hrank⟩ := hg.exists_ranked
  have hwalk : StackWalk g (g.visibleTree roots policy).depthLimit
      (entries 0 (g.visibleRoots roots) ++ []) (_ ++ []) :=
    stackWalk_visits hrank (fun _ _ => hg.id_of_find?) isVisible_of_mem_visibleRoots
      (fun id _ => hrank.le id) StackWalk.done
  rw [List.append_nil, List.append_nil] at hwalk
  exact ⟨_, hwalk, rfl, rfl⟩

/-- A tree keeps all that is visible below its roots as long as that is within the threshold.
Otherwise it keeps what the budget allows. -/
theorem visibleTree_keptWithin (hg : g.Reachable) (roots : List NodeId) (policy : DepthPolicy) :
    (∃ all, g.Lists (g.visibleRoots roots) all) ∧ ∀ all, g.Lists (g.visibleRoots roots) all →
      KeptWithin g (g.visibleRoots roots) all policy (g.visibleTree roots policy) := by
  refine ⟨⟨_, lists_visibleRoots hg roots⟩, fun all hall => ?_⟩
  have horder := order_visibleTree hg roots policy
  have hcapped := isCapped_visibleTree hg roots policy
  rw [(lists_visibleRoots hg roots).unique hall] at hcapped
  have hwhole : all.length ≤ policy.capThreshold →
      (g.visibleTree roots policy).depthLimit = none
        ∧ (g.visibleTree roots policy).order = all := by
    intro hle
    have hlimit := depthLimit_eq_none hg hall hle
    rw [hlimit] at horder
    exact ⟨hlimit, horder.trans ((lists_visibleRoots hg roots).unique hall)⟩
  have hcut : policy.capThreshold < all.length →
      ∃ limit, (g.visibleTree roots policy).depthLimit = some limit
        ∧ g.DeepestWithin (g.visibleRoots roots) policy.targetBudget limit
        ∧ (g.visibleTree roots policy).order = g.listing limit (g.visibleRoots roots) := by
    intro hlt
    obtain ⟨limit, hlimit, hdeepest⟩ := exists_depthLimit hg hall hlt
    rw [hlimit] at horder
    exact ⟨limit, hlimit, hdeepest, horder⟩
  have hbounded : (g.visibleTree roots policy).order.length
      ≤ max policy.capThreshold (max policy.targetBudget (g.visibleRoots roots).length) := by
    rcases Nat.lt_or_ge policy.capThreshold all.length with hlt | hle
    · obtain ⟨limit, -, hdeepest, hkept⟩ := hcut hlt
      rw [hkept]
      rcases hdeepest.fits with ⟨-, hfits⟩ | ⟨rfl, -⟩
      · omega
      · have hroots : (g.listing 0 (g.visibleRoots roots)).length
            = (g.visibleRoots roots).length := rfl
        omega
    · rw [(hwhole hle).2]
      omega
  refine ⟨hwhole, hcut, hbounded, hcapped, ?_, exists_stackPops hg roots policy,
    exists_stackWalk hg roots policy⟩
  have hreported : decide ((g.visibleTree roots policy).order.length < all.length)
      = (g.visibleTree roots policy).isCapped := by
    rw [Bool.eq_iff_iff, decide_eq_true_iff, hcapped]
  rw [hreported]
  rfl

/-! ### A frame with two rows -/

/-- A frame with two rows, the first of which has two cells. -/
def twoRows : SceneGraph :=
  (((({} : SceneGraph).addRoot { id := ⟨"f"⟩, type := .frame }).addNode 0
    { id := ⟨"a"⟩, type := .frame }).addNode 0 { id := ⟨"b"⟩, type := .frame }).addNode 1
      { id := ⟨"c"⟩, type := .rectangle } |>.addNode 1 { id := ⟨"d"⟩, type := .rectangle }

theorem reachable_twoRows : twoRows.Reachable := by
  refine (((Reachable.empty.addRoot _).addNode ?_ _).addNode ?_ _).addNode ?_ _ |>.addNode ?_ _
  all_goals
    rw [Std.ExtTreeMap.mem_iff_contains]
    decide +kernel

/-- With room for three nodes the frame keeps its rows and loses the cells. -/
theorem visibleTree_twoRows :
    KeptWithin twoRows [⟨"f"⟩] [⟨"f"⟩, ⟨"a"⟩, ⟨"c"⟩, ⟨"d"⟩, ⟨"b"⟩] ⟨3, 3⟩
        (twoRows.visibleTree [⟨"f"⟩] ⟨3, 3⟩)
      ∧ (twoRows.visibleTree [⟨"f"⟩] ⟨3, 3⟩).depthLimit = some 1
      ∧ (twoRows.visibleTree [⟨"f"⟩] ⟨3, 3⟩).order = [⟨"f"⟩, ⟨"a"⟩, ⟨"b"⟩] := by
  have hroots : twoRows.visibleRoots [⟨"f"⟩] = [⟨"f"⟩] := by decide +kernel
  have hall : twoRows.listing twoRows.owners.size [⟨"f"⟩]
      = [⟨"f"⟩, ⟨"a"⟩, ⟨"c"⟩, ⟨"d"⟩, ⟨"b"⟩] := by decide +kernel
  have hlists := lists_visibleRoots reachable_twoRows [⟨"f"⟩]
  rw [hroots, hall] at hlists
  refine ⟨?_, by decide +kernel, by decide +kernel⟩
  have hkept := (visibleTree_keptWithin reachable_twoRows [⟨"f"⟩] ⟨3, 3⟩).2
  rw [hroots] at hkept
  exact hkept _ hlists

end SceneGraph

end SceneCompiler
