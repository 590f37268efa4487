import Mathlib
import SceneCompiler.Outline
import SceneCompiler.Proofs.Tree.DepthLimit
/-!
# What an outline shows

An outline is made by a recursion that hands the room that is left from node to node. It shows the
start of the listing of its roots, as much of it as there is room for; and it is truncated just when
that is not all of the listing, or when there are nodes below the last level of it.

* `Outlined.append`: outlines of siblings, one after the other.
* `outlined_outlineNode`: what the recursion shows.
* `outline_shows`: what an outline shows, with its count and its flag.
* `lists_of_not_truncated`: an outline that is not truncated leaves nothing out.
* `outline_starts_listing`: an outline counted against all that is visible below its roots.
-/

namespace SceneCompiler

/-! ## Names in an outline -/

namespace OutlineNode

mutual

/-- The names of a node of an outline and of all below it, in pre-order. -/
def ids : OutlineNode → List NodeId
  | .node record none => [record.id]
  | .node record (some children) => record.id :: listIds children

def listIds : List OutlineNode → List NodeId
  | [] => []
  | n :: rest => n.ids ++ listIds rest

end

@[simp] theorem ids_leaf (record : OutlineRecord) : (node record none).ids = [record.id] := by
  rw [ids]

@[simp] theorem ids_node (record : OutlineRecord) (children : List OutlineNode) :
    (node record (some children)).ids = record.id :: listIds children := by
  rw [ids]

@[simp] theorem listIds_nil : listIds [] = [] := by
  rw [listIds]

theorem listIds_append (a b : List OutlineNode) : listIds (a ++ b) = listIds a ++ listIds b := by
  induction a with
  | nil => rw [listIds_nil, List.nil_append, List.nil_append]
  | cons n rest ih => rw [List.cons_append, listIds, listIds, ih, List.append_assoc]

@[simp] theorem listIds_singleton (n : OutlineNode) : listIds [n] = n.ids := by
  rw [listIds, listIds_nil, List.append_nil]

end OutlineNode

/-- The names in an outline, in pre-order. -/
def Outline.ids (o : Outline) : List NodeId :=
  OutlineNode.listIds o.nodes

namespace SceneGraph

variable {g : SceneGraph} {rank : NodeId → Nat}

/-! ## Outlines of siblings -/

/-- What an outline of some nodes down to a level shows, and what it leaves of the budget. -/
structure Outlined (g : SceneGraph) (d : Nat) (ids : List NodeId) (before : OutlineBudget)
    (made : List OutlineNode × OutlineBudget) : Prop where
  shown : OutlineNode.listIds made.1 = (g.listing d ids).take before.room
  room : made.2.room = before.room - (g.listing d ids).length
  truncated : made.2.truncated = true ↔ before.truncated = true
    ∨ before.room < (g.listing d ids).length ∨ g.level (d + 1) ids ≠ []

theorem outlined_nil (d : Nat) (b : OutlineBudget) : g.Outlined d [] b ([], b) := by
  constructor
  · rw [listing_nil, OutlineNode.listIds_nil, List.take_nil]
  · rw [listing_nil, List.length_nil, Nat.sub_zero]
  · simp [listing_nil, level_nil]

theorem listing_ne_nil {d : Nat} {ids : List NodeId} (h : ids ≠ []) : g.listing d ids ≠ [] := by
  have hgrow := length_listing_mono (g := g) (Nat.zero_le d) ids
  have hpos := List.length_pos_of_ne_nil h
  exact List.ne_nil_of_length_pos (hpos.trans_le hgrow)

/-- Without room nothing is shown of what there is. -/
theorem outlined_no_room (d : Nat) {ids : List NodeId} (hids : ids ≠ []) {b : OutlineBudget}
    (hroom : b.room = 0) : g.Outlined d ids b ([], { b with truncated := true }) := by
  have hsome := List.length_pos_of_ne_nil (listing_ne_nil (g := g) (d := d) hids)
  constructor
  · rw [hroom, List.take_zero, OutlineNode.listIds_nil]
  · show b.room = _
    omega
  · rw [hroom]
    simp [hsome]

/-- One outline after the other, the second one with the room that the first one leaves. -/
theorem Outlined.append {d : Nat} {ids ids' : List NodeId} {b : OutlineBudget}
    {made made' : List OutlineNode × OutlineBudget} (h : g.Outlined d ids b made)
    (h' : g.Outlined d ids' made.2 made') :
    g.Outlined d (ids ++ ids') b (made.1 ++ made'.1, made'.2) := by
  have hlength : (g.listing d (ids ++ ids')).length
      = (g.listing d ids).length + (g.listing d ids').length := by
    rw [listing_append, List.length_append]
  constructor
  · show OutlineNode.listIds (made.1 ++ made'.1) = _
    rw [OutlineNode.listIds_append, h.shown, h'.shown, h.room, listing_append, List.take_append]
  · show made'.2.room = _
    rw [h'.room, h.room, hlength, Nat.sub_sub]
  · show made'.2.truncated = true ↔ _
    have hlevel : g.level (d + 1) (ids ++ ids') ≠ []
        ↔ g.level (d + 1) ids ≠ [] ∨ g.level (d + 1) ids' ≠ [] := by
      rw [level_append, Ne, List.append_eq_nil_iff, not_and_or]
    -- Where the first outline uses up the room, both sides hold.
    have hroom : b.room < (g.listing d (ids ++ ids')).length
        ↔ b.room < (g.listing d ids).length
          ∨ b.room - (g.listing d ids).length < (g.listing d ids').length := by
      rw [hlength]
      omega
    rw [h'.truncated, h.truncated, h.room, hlevel, hroom]
    tauto

/-! ## The recursion -/

/-- The outline of one node, as an outline of siblings. -/
def single (made : Option OutlineNode × OutlineBudget) : List OutlineNode × OutlineBudget :=
  (made.1.toList, made.2)

/-- The siblings are outlined one after the other, until there is no room. -/
theorem outlined_siblings {d : Nat}
    {one : OutlineBudget → NodeId → Option OutlineNode × OutlineBudget} {ids : List NodeId}
    (hone : ∀ id ∈ ids, ∀ b, b.room ≠ 0 → g.Outlined d [id] b (single (one b id)))
    (b : OutlineBudget) : g.Outlined d ids b (outlineSiblings one b ids) := by
  induction ids generalizing b with
  | nil => exact outlined_nil d b
  | cons id rest ih =>
    rw [outlineSiblings]
    split
    · next hroom => exact outlined_no_room d (List.cons_ne_nil id rest) hroom
    · next hroom =>
      have hfirst := hone id List.mem_cons_self b hroom
      have hrest := ih (fun id' hid' => hone id' (List.mem_cons_of_mem id hid')) (one b id).2
      exact hfirst.append hrest

/-- A node without visible children. -/
theorem outlined_leaf (d : Nat) {id : NodeId} (hchildren : g.visibleChildIds id = [])
    {record : OutlineRecord} (hid : record.id = id) {b : OutlineBudget} (hroom : b.room ≠ 0) :
    g.Outlined d [id] b ([.node record none], { b with room := b.room - 1 }) := by
  have hlisting : g.listing d [id] = [id] := by
    cases d with
    | zero => rfl
    | succ d => rw [listing, List.flatMap_singleton, hchildren, listing_nil]
  have hlevel : g.level (d + 1) [id] = [] := by
    rw [level, List.flatMap_singleton, hchildren, level_nil]
  constructor
  · rw [hlisting, OutlineNode.listIds_singleton, OutlineNode.ids_leaf, hid,
      List.take_of_length_le (Nat.one_le_iff_ne_zero.mpr hroom)]
  · rw [hlisting]
    rfl
  · rw [hlisting, hlevel, List.length_singleton]
    simp [hroom]

/-- A node on the last level, which loses its children. -/
theorem outlined_last {id : NodeId} (hchildren : g.visibleChildIds id ≠ []) {record : OutlineRecord}
    (hid : record.id = id) {b : OutlineBudget} (hroom : b.room ≠ 0) :
    g.Outlined 0 [id] b ([.node record none], ⟨b.room - 1, true⟩) := by
  have hlevel : g.level 1 [id] ≠ [] := by
    rw [level, List.flatMap_singleton]
    exact hchildren
  constructor
  · rw [OutlineNode.listIds_singleton, OutlineNode.ids_leaf, hid]
    exact (List.take_of_length_le (Nat.one_le_iff_ne_zero.mpr hroom)).symm
  · rfl
  · simp [hlevel]

/-- A node with its children, of which there is one level less to show. -/
theorem outlined_node {d : Nat} {id : NodeId} {record : OutlineRecord} (hid : record.id = id)
    {b : OutlineBudget} (hroom : b.room ≠ 0) {made : List OutlineNode × OutlineBudget}
    (h : g.Outlined d (g.visibleChildIds id) { b with room := b.room - 1 } made) :
    g.Outlined (d + 1) [id] b ([.node record (some made.1)], made.2) := by
  obtain ⟨room, hsucc⟩ := Nat.exists_eq_succ_of_ne_zero hroom
  have hlisting : g.listing (d + 1) [id] = id :: g.listing d (g.visibleChildIds id) := by
    rw [listing, List.flatMap_singleton]
  have hlevel : g.level (d + 1 + 1) [id] = g.level (d + 1) (g.visibleChildIds id) := by
    rw [level, List.flatMap_singleton]
  have hshown := h.shown
  have hleft := h.room
  have htruncated := h.truncated
  simp only [hsucc, Nat.succ_eq_add_one, Nat.add_sub_cancel] at hshown hleft htruncated
  constructor
  · rw [hlisting, OutlineNode.listIds_singleton, OutlineNode.ids_node, hid, hshown, hsucc,
      List.take_succ_cons]
  · show made.2.room = _
    rw [hlisting, List.length_cons, hsucc, hleft]
    omega
  · rw [hlisting, hlevel, List.length_cons, hsucc]
    simpa using htruncated

/-- The recursion shows as much of the listing as there is room for. -/
theorem outlined_outlineNode (hrank : g.Ranked rank)
    (hnames : ∀ id n, g.find? id = some n → n.id = id) (limits : Limits) (maxDepth fuel : Nat) :
    ∀ depth ≤ maxDepth, ∀ id, g.isVisible id → rank id ≤ fuel → ∀ b : OutlineBudget, b.room ≠ 0 →
      g.Outlined (maxDepth - depth) [id] b
        (single (g.outlineNode limits maxDepth fuel depth b id)) := by
  induction fuel with
  | zero =>
    intro depth _ id hvisible hle
    have hpos := hrank.pos id (isSome_find?_of_isVisible hvisible)
    omega
  | succ fuel ih =>
    intro depth hdepth id hvisible hle b hroom
    obtain ⟨n, hn⟩ := Option.isSome_iff_exists.mp (isSome_find?_of_isVisible hvisible)
    have hflag : n.visible = true := by
      unfold isVisible at hvisible
      rw [hn] at hvisible
      exact hvisible
    have hid : (OutlineRecord.of limits n).id = id := hnames id n hn
    rw [outlineNode, hn, Option.filter_some, if_pos hflag]
    dsimp only
    cases hchildren : g.visibleChildIds id with
    | nil => exact outlined_leaf _ hchildren hid hroom
    | cons first others =>
      rw [← hchildren]
      have hsome : g.visibleChildIds id ≠ [] := by
        rw [hchildren]
        exact List.cons_ne_nil first others
      rw [if_neg (by simp [hsome])]
      split
      · next hlast =>
        rw [show maxDepth - depth = 0 by omega]
        exact outlined_last hsome hid hroom
      · next hdeeper =>
        have hlevel : maxDepth - depth = maxDepth - (depth + 1) + 1 := by omega
        rw [hlevel]
        refine outlined_node hid hroom (outlined_siblings (fun c hc => ?_) _)
        have hmem : c ∈ [id].flatMap g.visibleChildIds := by
          rw [List.flatMap_singleton]
          exact hc
        have hbelow := rank_le_of_mem_children hrank (by simpa using hle) c hmem
        exact ih (depth + 1) (by omega) c (isVisible_of_mem_children c hmem) hbelow

/-! ## Outlines -/

/-- The count of levels that an outline may show below its roots. -/
def outlineDepth (depth : Option Nat) (limits : Limits) : Nat :=
  depth.getD limits.structureDefaultDepth

/-- An outline of visible nodes shows as much of their listing as there is room for, counts what it
shows, and knows whether it left something out. -/
theorem outline_shows (hg : g.Reachable) {roots : List NodeId}
    (hroots : ∀ id ∈ roots, g.isVisible id) (depth : Option Nat) (limits : Limits) :
    (g.outline roots depth limits).ids
        = (g.listing (outlineDepth depth limits) roots).take limits.structureMaxNodes
      ∧ (g.outline roots depth limits).nodeCount = (g.outline roots depth limits).ids.length
      ∧ ((g.outline roots depth limits).truncated = true
        ↔ limits.structureMaxNodes < (g.listing (outlineDepth depth limits) roots).length
          ∨ g.level (outlineDepth depth limits + 1) roots ≠ []) := by
  obtain ⟨rank, hrank⟩ := hg.exists_ranked
  have hone : ∀ id ∈ roots, ∀ b : OutlineBudget, b.room ≠ 0 →
      g.Outlined (outlineDepth depth limits) [id] b (single
        (g.outlineNode limits (outlineDepth depth limits) g.owners.size 0 b id)) :=
    fun id hid => outlined_outlineNode hrank (fun _ _ => hg.id_of_find?) limits _ _ 0
      (Nat.zero_le _) id (hroots id hid) (hrank.le id)
  obtain ⟨hshown, hroom, htruncated⟩ :=
    outlined_siblings hone ⟨limits.structureMaxNodes, false⟩
  have hids : (g.outline roots depth limits).ids
      = (g.listing (outlineDepth depth limits) roots).take limits.structureMaxNodes := hshown
  have hcount : (g.outline roots depth limits).nodeCount = limits.structureMaxNodes
      - (limits.structureMaxNodes - (g.listing (outlineDepth depth limits) roots).length) :=
    congrArg (limits.structureMaxNodes - ·) hroom
  refine ⟨hids, ?_, ?_⟩
  · rw [hcount, hids, List.length_take]
    omega
  · refine htruncated.trans ?_
    simp

/-- An outline that is not truncated has all visible nodes below its roots. -/
theorem lists_of_not_truncated (hg : g.Reachable) {roots : List NodeId}
    (hroots : ∀ id ∈ roots, g.isVisible id) {depth : Option Nat} {limits : Limits}
    (h : (g.outline roots depth limits).truncated = false) :
    g.Lists roots (g.outline roots depth limits).ids := by
  obtain ⟨hshown, -, htruncated⟩ := outline_shows hg hroots depth limits
  have hall : ¬ (limits.structureMaxNodes < (g.listing (outlineDepth depth limits) roots).length
      ∨ g.level (outlineDepth depth limits + 1) roots ≠ []) := by
    rw [← htruncated, h]
    exact Bool.false_ne_true
  rw [not_or, not_lt, not_not] at hall
  rw [hshown, List.take_of_length_le hall.1]
  exact lists_listing hall.2

/-- Visible nodes have a listing that leaves nothing out. -/
theorem exists_lists (hg : g.Reachable) {ids : List NodeId} (hids : ∀ id ∈ ids, g.isVisible id) :
    ∃ deep, g.level deep ids = [] ∧ g.Lists ids (g.listing deep ids) := by
  obtain ⟨rank, hrank⟩ := hg.exists_ranked
  have hdeep := level_eq_nil_of_rank hrank hids fun id _ => hrank.le id
  exact ⟨g.owners.size, hdeep, lists_listing (level_eq_nil_of_le (Nat.le_succ _) hdeep)⟩

/-- No listing is longer than one that leaves nothing out. -/
theorem length_listing_le {ids : List NodeId} {deep : Nat} (hdeep : g.level deep ids = [])
    (d : Nat) : (g.listing d ids).length ≤ (g.listing deep ids).length := by
  by_cases hnext : g.level (d + 1) ids = []
  · have hall := lists_listing (level_eq_nil_of_le (Nat.le_succ deep) hdeep)
    rw [(lists_listing hnext).unique hall]
  · exact ((length_listing_lt_iff hdeep).mpr hnext).le

/-- An outline of visible nodes has the first nodes of their listing down to its last level, as many
as there is room for, and it is truncated just when it has fewer nodes than are visible below its
roots at all. -/
theorem outline_starts_listing (hg : g.Reachable) {roots : List NodeId}
    (hroots : ∀ id ∈ roots, g.isVisible id) (depth : Option Nat) (limits : Limits) :
    ∃ all, g.Lists roots all
      ∧ (g.outline roots depth limits).ids = (g.listing (outlineDepth depth limits) roots).take
        (min limits.structureMaxNodes (g.listing (outlineDepth depth limits) roots).length)
      ∧ (g.outline roots depth limits).nodeCount
        = min limits.structureMaxNodes (g.listing (outlineDepth depth limits) roots).length
      ∧ (g.outline roots depth limits).nodeCount = (g.outline roots depth limits).ids.length
      ∧ ((g.outline roots depth limits).truncated = true
        ↔ (g.outline roots depth limits).nodeCount < all.length) := by
  obtain ⟨deep, hdeep, hall⟩ := exists_lists hg hroots
  obtain ⟨hshown, hcounted, htruncated⟩ := outline_shows hg hroots depth limits
  have hcount : (g.outline roots depth limits).nodeCount
      = min limits.structureMaxNodes (g.listing (outlineDepth depth limits) roots).length := by
    rw [hcounted, hshown, List.length_take]
  refine ⟨g.listing deep roots, hall, ?_, hcount, hcounted, ?_⟩
  · rw [hshown, ← List.take_eq_take_min]
  · rw [htruncated, hcount, ← length_listing_lt_iff hdeep]
    -- The listing down to the last level is no longer than the one that leaves nothing out.
    have hle := length_listing_le hdeep (outlineDepth depth limits)
    omega

/-- Of the frame and its rows there is room for two: the second row is dropped, and so are the cells
below the last level. -/
theorem outline_twoRows :
    twoRows.Reachable ∧ (∀ id ∈ [(⟨"f"⟩ : NodeId)], twoRows.isVisible id)
      ∧ twoRows.Lists [⟨"f"⟩] [⟨"f"⟩, ⟨"a"⟩, ⟨"c"⟩, ⟨"d"⟩, ⟨"b"⟩]
      ∧ (twoRows.outline [⟨"f"⟩] (some 1) { structureMaxNodes := 2 }).ids = [⟨"f"⟩, ⟨"a"⟩]
      ∧ (twoRows.outline [⟨"f"⟩] (some 1) { structureMaxNodes := 2 }).nodeCount = 2
      ∧ (twoRows.outline [⟨"f"⟩] (some 1) { structureMaxNodes := 2 }).truncated = true := by
  have hroots : ∀ id ∈ [(⟨"f"⟩ : NodeId)], twoRows.isVisible id := by decide +kernel
  have hlisting : twoRows.listing 1 [⟨"f"⟩] = [⟨"f"⟩, ⟨"a"⟩, ⟨"b"⟩] := by decide +kernel
  have hdeep : twoRows.listing 2 [⟨"f"⟩] = [⟨"f"⟩, ⟨"a"⟩, ⟨"c"⟩, ⟨"d"⟩, ⟨"b"⟩] := by decide +kernel
  have hwhole : twoRows.Lists [⟨"f"⟩] (twoRows.listing 2 [⟨"f"⟩]) :=
    lists_listing (by decide +kernel)
  rw [hdeep] at hwhole
  obtain ⟨all, hall, hids, hcount, -, htruncated⟩ :=
    outline_starts_listing reachable_twoRows hroots (some 1) { structureMaxNodes := 2 }
  rw [show outlineDepth (some 1) _ = 1 from rfl, hlisting] at hids hcount
  refine ⟨reachable_twoRows, hroots, hwhole, hids, hcount, htruncated.mpr ?_⟩
  rw [hcount, hall.unique hwhole]
  decide

end SceneGraph

end SceneCompiler
