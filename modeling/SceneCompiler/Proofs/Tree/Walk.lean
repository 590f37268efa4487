import Mathlib
import SceneCompiler.Proofs.Tree.Listing
/-!
# The walk and its limit

The walk of a tree visits the listing down to the depth limit, and caps the nodes on the last level
that have children. The limit is chosen by the counts of nodes on each level.

* `order_visits`: the order of the visits is a listing.
* `capped_visits`: the capped nodes are those of the last level that have children.
* `sum_take_levelCounts`: the counts of the levels add up to the lengths of the listings.
-/

namespace SceneCompiler.SceneGraph

variable {g : SceneGraph} {rank : NodeId → Nat}

/-! ## One level of the walk -/

/-- The children that a node keeps at a depth. -/
def keptChildren (g : SceneGraph) (limit : Option Nat) (depth : Nat) (id : NodeId) : List NodeId :=
  if limit.any (· ≤ depth) then [] else g.visibleChildIds id

theorem children_visit (limit : Option Nat) (depth index : Nat) (n : SceneNode) :
    (g.visit limit depth index n).node.children = g.keptChildren limit depth n.id := by
  show (if limit.any (· ≤ depth) && !(g.visibleChildIds n.id).isEmpty then []
    else g.visibleChildIds n.id) = _
  unfold keptChildren
  cases hlimit : limit.any (· ≤ depth) with
  | false => simp
  | true =>
    -- A node at the limit that is not capped has no children to lose.
    cases hchildren : g.visibleChildIds n.id <;> simp

theorem mem_keptChildren {limit : Option Nat} {depth : Nat} {id c : NodeId}
    (h : c ∈ g.keptChildren limit depth id) : c ∈ g.visibleChildIds id := by
  unfold keptChildren at h
  split at h
  · cases h
  · exact h

theorem keptChildren_of_lt {limit : Option Nat} {depth : Nat} (h : ∀ l ∈ limit, depth < l)
    (id : NodeId) : g.keptChildren limit depth id = g.visibleChildIds id := by
  cases limit with
  | none => rfl
  | some l =>
    have hdeep : ¬ l ≤ depth := not_le.mpr (h l rfl)
    simp [keptChildren, hdeep]

theorem keptChildren_at_limit (depth : Nat) (id : NodeId) :
    g.keptChildren (some depth) depth id = [] := by
  simp [keptChildren]

theorem visits_nil (limit : Option Nat) (fuel depth : Nat) : g.visits limit fuel depth [] = [] := by
  cases fuel <;> rfl

/-- A visit is that of one of the nodes, or it is a visit below one of them. -/
theorem mem_visits_succ {limit : Option Nat} {fuel depth : Nat} {ids : List NodeId} {v : Visit} :
    v ∈ g.visits limit (fuel + 1) depth ids ↔ ∃ index id n, ids[index]? = some id
      ∧ g.find? id = some n ∧ (v = g.visit limit depth index n
        ∨ v ∈ g.visits limit fuel (depth + 1) (g.keptChildren limit depth n.id)) := by
  rw [visits, List.mem_flatMap]
  constructor
  · rintro ⟨⟨id, index⟩, hmem, hv⟩
    cases hfind : g.find? id with
    | none => simp [hfind] at hv
    | some n =>
      simp only [hfind, List.mem_cons, children_visit] at hv
      exact ⟨index, id, n, List.mk_mem_zipIdx_iff_getElem?.mp hmem, hfind, hv⟩
  · rintro ⟨index, id, n, hindex, hfind, hv⟩
    refine ⟨(id, index), List.mk_mem_zipIdx_iff_getElem?.mpr hindex, ?_⟩
    simpa only [hfind, List.mem_cons, children_visit] using hv

/-- Every visit is that of a node of the scene. -/
theorem exists_node_of_mem_visits {limit : Option Nat} {fuel depth : Nat} {ids : List NodeId}
    {v : Visit} (hv : v ∈ g.visits limit fuel depth ids) :
    ∃ id n depth' index, g.find? id = some n ∧ v = g.visit limit depth' index n := by
  induction fuel generalizing depth ids with
  | zero => simp [visits] at hv
  | succ fuel ih =>
    obtain ⟨index, id, n, -, hn, hself | hbelow⟩ := mem_visits_succ.mp hv
    · exact ⟨id, n, depth, index, hn, hself⟩
    · exact ih hbelow

/-- What is read off the visits of some visible nodes is read off each node and then off the visits
of the children that it keeps, as long as a visit is read by its name. -/
theorem flatMap_visits_succ {α : Type} (hnames : ∀ id n, g.find? id = some n → n.id = id)
    {limit : Option Nat} {depth : Nat} {read : Visit → List α} (readId : NodeId → List α)
    (hread : ∀ index n, read (g.visit limit depth index n) = readId n.id) (fuel : Nat)
    {ids : List NodeId} (hids : ∀ id ∈ ids, g.isVisible id) :
    (g.visits limit (fuel + 1) depth ids).flatMap read = ids.flatMap fun id =>
      readId id ++
        (g.visits limit fuel (depth + 1) (g.keptChildren limit depth id)).flatMap read := by
  rw [visits, List.flatMap_assoc]
  trans ids.zipIdx.flatMap fun p =>
    readId p.1 ++ (g.visits limit fuel (depth + 1) (g.keptChildren limit depth p.1)).flatMap read
  · refine List.flatMap_congr ?_
    rintro ⟨id, index⟩ hp
    have hvisible := hids id (List.fst_mem_of_mem_zipIdx hp)
    obtain ⟨n, hn⟩ := Option.isSome_iff_exists.mp (isSome_find?_of_isVisible hvisible)
    have hid : n.id = id := hnames id n hn
    simp only [hn, List.flatMap_cons, children_visit, hread, hid]
  · rw [← List.flatMap_map (f := Prod.fst) (g := fun id =>
      readId id ++ (g.visits limit fuel (depth + 1) (g.keptChildren limit depth id)).flatMap read),
      List.zipIdx_map_fst]

theorem rank_le_of_mem_children (hrank : g.Ranked rank) {fuel : Nat} {ids : List NodeId}
    (hle : ∀ id ∈ ids, rank id ≤ fuel + 1) :
    ∀ c ∈ ids.flatMap g.visibleChildIds, rank c ≤ fuel := by
  intro c hc
  have hdrop := rank_add_le_of_mem_level (g := g) (d := 1) hrank hle hc
  omega

theorem isVisible_of_mem_children {ids : List NodeId} :
    ∀ c ∈ ids.flatMap g.visibleChildIds, g.isVisible c := by
  intro c hc
  obtain ⟨_, -, hchild⟩ := List.mem_flatMap.mp hc
  exact (List.mem_filter.mp hchild).2

/-! ## The order of the visits -/

/-- The walk visits the listing down to its depth limit. Without a limit it visits every listing
that is as deep as its fuel. -/
theorem order_visits (hrank : g.Ranked rank) (hnames : ∀ id n, g.find? id = some n → n.id = id)
    {limit : Option Nat} {fuel depth d : Nat} {ids : List NodeId}
    (hids : ∀ id ∈ ids, g.isVisible id) (hle : ∀ id ∈ ids, rank id ≤ fuel)
    (hlimit : ∀ l ∈ limit, l = depth + d) (hnone : limit = none → fuel ≤ d) :
    (g.visits limit fuel depth ids).map (·.node.id) = g.listing d ids := by
  rw [List.map_eq_flatMap]
  induction fuel generalizing depth d ids with
  | zero =>
    have hnil : ids = [] := level_eq_nil_of_rank hrank (d := 0) hids hle
    rw [hnil, listing_nil]
    rfl
  | succ fuel ih =>
    rw [flatMap_visits_succ hnames (fun id => [id]) (fun _ _ => rfl) fuel hids]
    cases d with
    | zero =>
      -- Only a limit ends the walk here, and it takes all children away.
      cases limit with
      | none => simp at hnone
      | some l =>
        obtain rfl : l = depth := hlimit l rfl
        simp [keptChildren_at_limit, visits_nil, listing]
    | succ d =>
      rw [listing]
      refine List.flatMap_congr fun id hid => ?_
      have hkept : g.keptChildren limit depth id = g.visibleChildIds id :=
        keptChildren_of_lt (fun l hl => by have := hlimit l hl; omega) id
      have hmem : ∀ c ∈ g.visibleChildIds id, c ∈ ids.flatMap g.visibleChildIds :=
        fun c hc => List.mem_flatMap.mpr ⟨id, hid, hc⟩
      rw [hkept, ih]
      · rfl
      · exact fun c hc => isVisible_of_mem_children c (hmem c hc)
      · exact fun c hc => rank_le_of_mem_children hrank hle c (hmem c hc)
      · intro l hl
        have := hlimit l hl
        omega
      · intro h
        have := hnone h
        omega

/-! ## Capped nodes -/

theorem filter_eq_flatMap {α : Type} (p : α → Bool) (l : List α) :
    l.filter p = l.flatMap fun a => if p a then [a] else [] := by
  induction l with
  | nil => rfl
  | cons a rest ih =>
    rw [List.flatMap_cons, ← ih]
    cases hp : p a <;> simp [hp]

/-- The names of the capped visits. -/
def cappedNames (visits : List Visit) : List NodeId :=
  (visits.filter (·.capped)).map (·.node.id)

theorem cappedNames_eq_flatMap (visits : List Visit) :
    cappedNames visits = visits.flatMap fun v => if v.capped then [v.node.id] else [] := by
  rw [cappedNames, filter_eq_flatMap, List.map_flatMap]
  refine List.flatMap_congr fun v _ => ?_
  cases v.capped <;> rfl

/-- The capped nodes are those of the last level that have children. -/
theorem capped_visits (hrank : g.Ranked rank) (hnames : ∀ id n, g.find? id = some n → n.id = id)
    {limit fuel depth d : Nat} {ids : List NodeId} (hlimit : limit = depth + d)
    (hids : ∀ id ∈ ids, g.isVisible id) (hle : ∀ id ∈ ids, rank id ≤ fuel) :
    cappedNames (g.visits (some limit) fuel depth ids)
      = (g.level d ids).filter fun id => !(g.visibleChildIds id).isEmpty := by
  rw [cappedNames_eq_flatMap]
  induction fuel generalizing depth d ids with
  | zero =>
    have hnil : ids = [] := level_eq_nil_of_rank hrank (d := 0) hids hle
    rw [hnil, level_nil]
    rfl
  | succ fuel ih =>
    rw [flatMap_visits_succ hnames (fun id =>
      if (some limit).any (· ≤ depth) && !(g.visibleChildIds id).isEmpty then [id] else [])
      (fun _ _ => rfl) fuel hids]
    cases d with
    | zero =>
      obtain rfl : limit = depth := hlimit
      rw [show g.level 0 ids = ids from rfl, filter_eq_flatMap]
      simp [keptChildren_at_limit, visits_nil]
    | succ d =>
      have hdeep : ¬ limit ≤ depth := by omega
      rw [level, level_eq_flatMap, List.flatMap_assoc, List.filter_flatMap]
      refine List.flatMap_congr fun id hid => ?_
      have hkept : g.keptChildren (some limit) depth id = g.visibleChildIds id := by
        refine keptChildren_of_lt (fun l hl => ?_) id
        obtain rfl : limit = l := Option.some.inj hl
        omega
      have hmem : ∀ c ∈ g.visibleChildIds id, c ∈ ids.flatMap g.visibleChildIds :=
        fun c hc => List.mem_flatMap.mpr ⟨id, hid, hc⟩
      rw [hkept, ih (d := d) (by omega), ← level_eq_flatMap]
      · simp [hdeep]
      · exact fun c hc => isVisible_of_mem_children c (hmem c hc)
      · exact fun c hc => rank_le_of_mem_children hrank hle c (hmem c hc)

/-- A walk without a limit caps nothing. -/
theorem capped_visits_none (fuel depth : Nat) (ids : List NodeId) :
    cappedNames (g.visits none fuel depth ids) = [] := by
  rw [cappedNames_eq_flatMap, List.flatMap_eq_nil_iff]
  induction fuel generalizing depth ids with
  | zero => simp [visits]
  | succ fuel ih =>
    intro v hv
    obtain ⟨index, id, n, -, -, rfl | hbelow⟩ := mem_visits_succ.mp hv
    · rfl
    · exact ih _ _ v hbelow

/-! ## Counting levels -/

/-- The levels that are counted are those that have nodes. -/
theorem lt_length_levelCounts (hrank : g.Ranked rank) {fuel k : Nat} {ids : List NodeId}
    (hids : ∀ id ∈ ids, g.isVisible id) (hle : ∀ id ∈ ids, rank id ≤ fuel) :
    k < (g.levelCounts fuel ids).length ↔ g.level k ids ≠ [] := by
  induction fuel generalizing k ids with
  | zero =>
    have hnil : ids = [] := level_eq_nil_of_rank hrank (d := 0) hids hle
    simp [hnil, levelCounts, level_nil]
  | succ fuel ih =>
    cases ids with
    | nil => simp [levelCounts, level_nil]
    | cons id rest =>
      rw [levelCounts, List.length_cons]
      · cases k with
        | zero => simp [level]
        | succ k =>
          rw [level, ← ih isVisible_of_mem_children (rank_le_of_mem_children hrank hle)]
          omega
      · simp

theorem getD_levelCounts (hrank : g.Ranked rank) {fuel k : Nat} {ids : List NodeId}
    (hids : ∀ id ∈ ids, g.isVisible id) (hle : ∀ id ∈ ids, rank id ≤ fuel) :
    (g.levelCounts fuel ids).getD k 0 = (g.level k ids).length := by
  induction fuel generalizing k ids with
  | zero =>
    have hnil : ids = [] := level_eq_nil_of_rank hrank (d := 0) hids hle
    simp [hnil, levelCounts, level_nil]
  | succ fuel ih =>
    cases ids with
    | nil => simp [levelCounts, level_nil]
    | cons id rest =>
      rw [levelCounts]
      · cases k with
        | zero => rfl
        | succ k => exact ih isVisible_of_mem_children (rank_le_of_mem_children hrank hle)
      · simp

theorem sum_take_eq (counts : List Nat) (n : Nat) :
    (counts.take n).sum = ((List.range n).map fun k => counts.getD k 0).sum := by
  induction n generalizing counts with
  | zero => simp
  | succ n ih =>
    rw [List.range_succ_eq_map, List.map_cons, List.sum_cons, List.map_map]
    cases counts with
    | nil => simp [Function.comp_def]
    | cons count rest =>
      rw [List.take_succ_cons, List.sum_cons, ih]
      rfl

/-- The counts down to a level add up to the length of the listing down to that level. -/
theorem sum_take_levelCounts (hrank : g.Ranked rank) {fuel d : Nat} {ids : List NodeId}
    (hids : ∀ id ∈ ids, g.isVisible id) (hle : ∀ id ∈ ids, rank id ≤ fuel) :
    ((g.levelCounts fuel ids).take (d + 1)).sum = (g.listing d ids).length := by
  rw [sum_take_eq, length_listing]
  simp only [getD_levelCounts hrank hids hle]

/-- All counts add up to the length of a listing that leaves nothing out. -/
theorem sum_levelCounts (hrank : g.Ranked rank) {fuel : Nat} {ids : List NodeId}
    (hids : ∀ id ∈ ids, g.isVisible id) (hle : ∀ id ∈ ids, rank id ≤ fuel) :
    (g.levelCounts fuel ids).sum = (g.listing fuel ids).length := by
  have hlength : (g.levelCounts fuel ids).length ≤ fuel := by
    by_contra hlong
    rw [not_le, lt_length_levelCounts hrank hids hle] at hlong
    exact hlong (level_eq_nil_of_rank hrank hids hle)
  rw [← sum_take_levelCounts hrank hids hle, List.take_of_length_le (by omega)]

end SceneCompiler.SceneGraph
