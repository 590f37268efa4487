import Mathlib
import SceneCompiler.Proofs.Tree.Order
/-!
# Listings

The listing of some nodes down to a level has the nodes and all visible nodes below them in
pre-order. Up to order it is made of levels, and a scene has fewer levels than names, so listings
stop to grow.

* `listing_perm`: a listing holds the nodes of its levels.
* `level_eq_nil_of_rank`: a scene has fewer levels than names.
* `lists_listing`: a listing that ends above an empty level leaves nothing out.
-/

namespace SceneCompiler.SceneGraph

/-! ## Definitions -/

/-- Some nodes and the visible nodes at most `d` levels below them, in pre-order. -/
def listing (g : SceneGraph) : Nat → List NodeId → List NodeId
  | 0, ids => ids
  | d + 1, ids => ids.flatMap fun id => id :: g.listing d (g.visibleChildIds id)

/-- `all` has some nodes and all visible nodes below them, in pre-order. -/
inductive Lists (g : SceneGraph) : List NodeId → List NodeId → Prop where
  | nil : Lists g [] []
  | cons {id : NodeId} {rest below after : List NodeId}
      (children : Lists g (g.visibleChildIds id) below) (siblings : Lists g rest after) :
      Lists g (id :: rest) (id :: (below ++ after))

/-- The visible nodes exactly `d` levels below some nodes. -/
def level (g : SceneGraph) : Nat → List NodeId → List NodeId
  | 0, ids => ids
  | d + 1, ids => g.level d (ids.flatMap g.visibleChildIds)

variable {g : SceneGraph} {rank : NodeId → Nat}

/-! ## Levels -/

theorem level_append (d : Nat) (a b : List NodeId) :
    g.level d (a ++ b) = g.level d a ++ g.level d b := by
  induction d generalizing a b with
  | zero => rfl
  | succ d ih => simp only [level, List.flatMap_append, ih]

/-- Levels can also be counted from above. -/
theorem level_succ (d : Nat) (ids : List NodeId) :
    g.level (d + 1) ids = (g.level d ids).flatMap g.visibleChildIds := by
  induction d generalizing ids with
  | zero => rfl
  | succ d ih =>
    rw [level, ih]
    rfl

theorem level_eq_flatMap (d : Nat) (ids : List NodeId) :
    g.level d ids = ids.flatMap fun id => g.level d [id] := by
  induction ids with
  | nil =>
    induction d with
    | zero => rfl
    | succ d ih => exact ih
  | cons id rest ih =>
    rw [List.flatMap_cons, ← ih, ← level_append]
    rfl

theorem level_perm (d : Nat) {a b : List NodeId} (h : a.Perm b) :
    (g.level d a).Perm (g.level d b) := by
  rw [level_eq_flatMap d a, level_eq_flatMap d b]
  exact h.flatMap_right _

theorem level_nil (d : Nat) : g.level d [] = [] := by
  rw [level_eq_flatMap]
  rfl

/-- Below an empty level there is nothing. -/
theorem level_eq_nil_of_le {d e : Nat} {ids : List NodeId} (hde : d ≤ e) (h : g.level d ids = []) :
    g.level e ids = [] := by
  induction e, hde using Nat.le_induction with
  | base => exact h
  | succ e _ ih =>
    rw [level_succ, ih]
    rfl

theorem mem_level_visible {d : Nat} {ids : List NodeId} (hids : ∀ id ∈ ids, g.isVisible id)
    {id : NodeId} (h : id ∈ g.level d ids) : g.isVisible id := by
  cases d with
  | zero => exact hids id h
  | succ d =>
    rw [level_succ] at h
    obtain ⟨p, -, hchild⟩ := List.mem_flatMap.mp h
    exact (List.mem_filter.mp hchild).2

theorem isSome_find?_of_isVisible {id : NodeId} (h : g.isVisible id) : (g.find? id).isSome := by
  unfold isVisible at h
  cases hfind : g.find? id with
  | none => simp [hfind] at h
  | some n => rfl

/-- Ranks drop from level to level. -/
theorem rank_add_le_of_mem_level (hrank : g.Ranked rank) {d bound : Nat} {ids : List NodeId}
    (hids : ∀ id ∈ ids, rank id ≤ bound) {id : NodeId} (h : id ∈ g.level d ids) :
    rank id + d ≤ bound := by
  induction d generalizing id with
  | zero => exact hids id h
  | succ d ih =>
    rw [level_succ] at h
    obtain ⟨p, hp, hchild⟩ := List.mem_flatMap.mp h
    have hparent := ih hp
    obtain ⟨hmem, hfound⟩ := mem_visibleChildIds hchild
    have hlt := hrank.child p id hmem hfound
    omega

/-- A scene has fewer levels than names. -/
theorem level_eq_nil_of_rank (hrank : g.Ranked rank) {d : Nat} {ids : List NodeId}
    (hids : ∀ id ∈ ids, g.isVisible id) (hle : ∀ id ∈ ids, rank id ≤ d) : g.level d ids = [] := by
  rw [List.eq_nil_iff_forall_not_mem]
  intro id hid
  have hdrop := rank_add_le_of_mem_level hrank hle hid
  have hpos := hrank.pos id (isSome_find?_of_isVisible (mem_level_visible hids hid))
  omega

/-! ## Listings -/

theorem listing_nil (d : Nat) : g.listing d [] = [] := by
  cases d <;> rfl

theorem listing_append (d : Nat) (a b : List NodeId) :
    g.listing d (a ++ b) = g.listing d a ++ g.listing d b := by
  cases d with
  | zero => rfl
  | succ d => simp only [listing, List.flatMap_append]

theorem listing_flatMap (d : Nat) (f : NodeId → List NodeId) (ids : List NodeId) :
    g.listing d (ids.flatMap f) = ids.flatMap fun id => g.listing d (f id) := by
  induction ids with
  | nil => exact listing_nil d
  | cons id rest ih => rw [List.flatMap_cons, listing_append, ih, List.flatMap_cons]

/-- What visible children take over from their parents holds throughout a listing. -/
theorem forall_mem_listing {P : NodeId → Prop}
    (hchild : ∀ p c, P p → c ∈ g.visibleChildIds p → P c) (d : Nat) {ids : List NodeId}
    (hids : ∀ id ∈ ids, P id) : ∀ id ∈ g.listing d ids, P id := by
  induction d generalizing ids with
  | zero => exact hids
  | succ d ih =>
    intro id hid
    obtain ⟨p, hp, hid⟩ := List.mem_flatMap.mp hid
    rcases List.mem_cons.mp hid with rfl | hbelow
    · exact hids id hp
    · exact ih (fun c hc => hchild p c (hids p hp) hc) id hbelow

/-- A listing holds the nodes of its levels. -/
theorem listing_perm (d : Nat) (ids : List NodeId) :
    (g.listing d ids).Perm ((List.range (d + 1)).flatMap fun k => g.level k ids) := by
  induction d generalizing ids with
  | zero => simp [listing, level]
  | succ d ih =>
    have hsplit : (g.listing (d + 1) ids).Perm
        (ids ++ g.listing d (ids.flatMap g.visibleChildIds)) := by
      have happend := List.flatMap_append_perm ids (fun id => [id])
        fun id => g.listing d (g.visibleChildIds id)
      rw [List.flatMap_singleton', ← listing_flatMap] at happend
      exact happend.symm
    refine hsplit.trans ?_
    -- The level of the nodes themselves comes first, the others are levels of their children.
    rw [List.range_succ_eq_map, List.flatMap_cons, List.flatMap_map]
    exact (ih (ids.flatMap g.visibleChildIds)).append_left ids

theorem length_listing (d : Nat) (ids : List NodeId) :
    (g.listing d ids).length = ((List.range (d + 1)).map fun k => (g.level k ids).length).sum := by
  rw [(listing_perm d ids).length_eq, List.length_flatMap]

theorem length_listing_succ (d : Nat) (ids : List NodeId) :
    (g.listing (d + 1) ids).length = (g.listing d ids).length + (g.level (d + 1) ids).length := by
  rw [length_listing, List.range_succ, List.map_append, List.sum_append, ← length_listing]
  simp

theorem length_listing_mono {d e : Nat} (hde : d ≤ e) (ids : List NodeId) :
    (g.listing d ids).length ≤ (g.listing e ids).length := by
  induction e, hde using Nat.le_induction with
  | base => exact le_rfl
  | succ e _ ih =>
    rw [length_listing_succ]
    omega

/-- Of fewer nodes there is less to list, at least by what is missing. -/
theorem length_listing_of_sublist {a b : List NodeId} (h : a.Sublist b) (d : Nat) :
    (g.listing d a).length + b.length ≤ (g.listing d b).length + a.length := by
  have hcons : ∀ (id : NodeId) (rest : List NodeId),
      (g.listing d (id :: rest)).length
        = (g.listing d [id]).length + (g.listing d rest).length := by
    intro id rest
    rw [← List.singleton_append, listing_append, List.length_append]
  induction h with
  | slnil => exact le_rfl
  | @cons a b id _ ih =>
    have hself : 1 ≤ (g.listing d [id]).length := length_listing_mono (g := g) (Nat.zero_le d) [id]
    rw [hcons id b, List.length_cons]
    omega
  | @cons_cons a b id _ ih =>
    rw [hcons id a, hcons id b, List.length_cons, List.length_cons]
    omega

theorem lists_of_no_children {ids : List NodeId} (h : ids.flatMap g.visibleChildIds = []) :
    g.Lists ids ids := by
  induction ids with
  | nil => exact .nil
  | cons id rest ih =>
    obtain ⟨hchildren, hrest⟩ := List.append_eq_nil_iff.mp (List.flatMap_cons ▸ h)
    have hbelow : g.Lists (g.visibleChildIds id) [] := by
      rw [hchildren]
      exact .nil
    exact Lists.cons hbelow (ih hrest)

/-- A listing that ends above an empty level leaves nothing out. -/
theorem lists_listing {d : Nat} {ids : List NodeId} (h : g.level (d + 1) ids = []) :
    g.Lists ids (g.listing d ids) := by
  induction d generalizing ids with
  | zero => exact lists_of_no_children h
  | succ d ih =>
    induction ids with
    | nil => exact .nil
    | cons id rest ihrest =>
      rw [show id :: rest = [id] ++ rest from rfl, level_append, List.append_eq_nil_iff] at h
      obtain ⟨hid, hrest⟩ := h
      have hchildren : g.level (d + 1) (g.visibleChildIds id) = [] := by
        rw [level, List.flatMap_singleton] at hid
        exact hid
      exact Lists.cons (ih hchildren) (ihrest hrest)

/-- There is one listing that leaves nothing out. -/
theorem Lists.unique {ids a b : List NodeId} (ha : g.Lists ids a) (hb : g.Lists ids b) : a = b := by
  induction ha generalizing b with
  | nil =>
    cases hb
    rfl
  | cons _ _ ihchildren ihsiblings =>
    cases hb with
    | cons hchildren hsiblings => rw [ihchildren hchildren, ihsiblings hsiblings]

end SceneCompiler.SceneGraph
