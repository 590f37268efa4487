import Mathlib
import SceneCompiler.Proofs.Scene.Reachable
import SceneCompiler.Proofs.Table
import SceneCompiler.Tree.Build
/-!
# The order of a visible tree

The walk visits the children of a node right behind it. Where the roots of a walk lie below each
other a node is visited several times, and its record is that of the last visit; so everything below
a node in the tree comes after its last place in the order.

* `followed_visits`: the walk visits the children that it records.
* `comesAfter_of_mem_descendants`: what lies below a node comes after it.
-/

namespace SceneCompiler

namespace SceneGraph

variable {g : SceneGraph} {rank : NodeId → Nat}

/-! ## The walk -/

/-- Every visit is followed by visits of the children that it records. -/
def Followed : List Visit → Prop
  | [] => True
  | v :: rest => (∀ c ∈ v.node.children, c ∈ rest.map (·.node.id)) ∧ Followed rest

theorem Followed.append {l₁ l₂ : List Visit} (h₁ : Followed l₁) (h₂ : Followed l₂) :
    Followed (l₁ ++ l₂) := by
  induction l₁ with
  | nil => exact h₂
  | cons v rest ih =>
    obtain ⟨hchildren, hrest⟩ := h₁
    refine ⟨fun c hc => ?_, ih hrest⟩
    show c ∈ (rest ++ l₂).map (·.node.id)
    rw [List.map_append]
    exact List.mem_append_left _ (hchildren c hc)

theorem Followed.flatMap {α : Type} {f : α → List Visit} {l : List α}
    (h : ∀ a ∈ l, Followed (f a)) : Followed (l.flatMap f) := by
  induction l with
  | nil => trivial
  | cons a rest ih =>
    rw [List.flatMap_cons]
    exact (h a (by simp)).append (ih fun b hb => h b (List.mem_cons_of_mem _ hb))

theorem Followed.mem_after {before after : List Visit} {v : Visit}
    (h : Followed (before ++ v :: after)) : ∀ c ∈ v.node.children, c ∈ after.map (·.node.id) := by
  induction before with
  | nil => exact h.1
  | cons u rest ih => exact ih h.2

theorem mem_children_visit {limit : Option Nat} {depth index : Nat} {n : SceneNode} {c : NodeId}
    (h : c ∈ (g.visit limit depth index n).node.children) : c ∈ g.visibleChildIds n.id := by
  unfold visit at h
  dsimp only at h
  split at h
  · cases h
  · exact h

theorem mem_visibleChildIds {id c : NodeId} (h : c ∈ g.visibleChildIds id) :
    c ∈ g.childIds id ∧ (g.find? c).isSome := by
  unfold visibleChildIds at h
  obtain ⟨hmem, hvisible⟩ := List.mem_filter.mp h
  unfold isVisible at hvisible
  refine ⟨hmem, ?_⟩
  cases hfind : g.find? c with
  | none => simp [hfind] at hvisible
  | some n => rfl

/-- A walk that goes on visits every one of its siblings that has a node. -/
theorem mem_visits (limit : Option Nat) (fuel depth : Nat) {ids : List NodeId} {id : NodeId}
    {n : SceneNode} (hid : id ∈ ids) (hn : g.find? id = some n) :
    n.id ∈ (g.visits limit (fuel + 1) depth ids).map (·.node.id) := by
  obtain ⟨index, hindex⟩ := List.mem_iff_getElem?.mp hid
  rw [visits, List.map_flatMap, List.mem_flatMap]
  refine ⟨(id, index), List.mk_mem_zipIdx_iff_getElem?.mpr hindex, ?_⟩
  simp only [hn]
  exact List.mem_cons_self

/-- The walk visits the children that it records, as long as its fuel lasts; a rank bounds the fuel
that it needs. -/
theorem followed_visits (hrank : g.Ranked rank) (hnames : ∀ id n, g.find? id = some n → n.id = id)
    {limit : Option Nat} (fuel : Nat) :
    ∀ (depth : Nat) (ids : List NodeId), (∀ id ∈ ids, rank id ≤ fuel) →
      Followed (g.visits limit fuel depth ids) := by
  induction fuel with
  | zero => exact fun _ _ _ => trivial
  | succ fuel ih =>
    intro depth ids hids
    rw [visits]
    refine Followed.flatMap ?_
    rintro ⟨id, index⟩ hmem
    dsimp only
    split
    · next n hn =>
      have hid : n.id = id := hnames id n hn
      have hbelow : ∀ c ∈ (g.visit limit depth index n).node.children,
          (g.find? c).isSome ∧ rank c ≤ fuel := by
        intro c hc
        obtain ⟨hchild, hfound⟩ := mem_visibleChildIds (mem_children_visit hc)
        rw [hid] at hchild
        have hlt := hrank.child id c hchild hfound
        have hle := hids id (List.fst_mem_of_mem_zipIdx hmem)
        exact ⟨hfound, by omega⟩
      refine ⟨fun c hc => ?_, ih _ _ fun c hc => (hbelow c hc).2⟩
      obtain ⟨hfound, hle⟩ := hbelow c hc
      obtain ⟨m, hm⟩ := Option.isSome_iff_exists.mp hfound
      -- The child has a positive rank, so there is fuel left to visit it.
      have hpos := hrank.pos c hfound
      obtain ⟨fuel', rfl⟩ : ∃ fuel', fuel = fuel' + 1 := ⟨fuel - 1, by omega⟩
      have hvisited := mem_visits limit fuel' (depth + 1) hc hm
      rwa [hnames c m hm] at hvisited
    · trivial

end SceneGraph

/-! ## Places in the order -/

namespace VisibleTree

variable {t : VisibleTree}

/-- One node has a place behind the last place of another. -/
def ComesAfter (t : VisibleTree) (above below : NodeId) : Prop :=
  ∀ before after, t.order = before ++ above :: after → above ∉ after → below ∈ after

/-- A list with an element has a last place of it. -/
theorem exists_last_place {id : NodeId} {l : List NodeId} (h : id ∈ l) :
    ∃ before after, l = before ++ id :: after ∧ id ∉ after := by
  obtain ⟨after, before, hsplit, hnot⟩ := List.eq_append_cons_of_mem (List.mem_reverse.mpr h)
  refine ⟨before.reverse, after.reverse, ?_, fun hmem => hnot (List.mem_reverse.mp hmem)⟩
  rw [← List.reverse_reverse l, hsplit]
  simp

theorem ComesAfter.trans {a b c : NodeId} (hab : t.ComesAfter a b) (hbc : t.ComesAfter b c) :
    t.ComesAfter a c := by
  intro before after hsplit hlast
  -- Go on from the last place of `b`, which lies behind that of `a`.
  obtain ⟨between, rest, rfl, hlast'⟩ := exists_last_place (hab before after hsplit hlast)
  refine List.mem_append_right _ (List.mem_cons_of_mem _ ?_)
  refine hbc (before ++ a :: between) rest ?_ hlast'
  rw [hsplit, List.append_assoc, List.cons_append]

/-- Where children come after their parents everything below a node comes after it. -/
theorem comesAfter_of_mem_subtree (hchild : ∀ a, ∀ c ∈ t.childrenOf a, t.ComesAfter a c)
    (fuel : Nat) : ∀ {a c : NodeId}, c ∈ t.childrenOf a → ∀ x ∈ t.subtree fuel c,
      t.ComesAfter a x := by
  induction fuel with
  | zero => simp [subtree]
  | succ fuel ih =>
    intro a c hc x hx
    rw [subtree] at hx
    rcases List.mem_cons.mp hx with rfl | hbelow
    · exact hchild a x hc
    · obtain ⟨d, hd, hx⟩ := List.mem_flatMap.mp hbelow
      exact (hchild a c hc).trans (ih hd x hx)

theorem comesAfter_of_mem_descendants' (hchild : ∀ a, ∀ c ∈ t.childrenOf a, t.ComesAfter a c)
    {a x : NodeId} (hx : x ∈ t.descendants a) : t.ComesAfter a x := by
  unfold descendants at hx
  obtain ⟨c, hc, hx⟩ := List.mem_flatMap.mp hx
  exact comesAfter_of_mem_subtree hchild _ hc x hx

end VisibleTree

namespace SceneGraph

variable {g : SceneGraph}

/-- The record of a node is that of its last visit. -/
theorem find?_visibleTree {roots : List NodeId} {policy : DepthPolicy} {before after : List Visit}
    {v : Visit} (hvisits : g.visits (g.visibleTree roots policy).depthLimit g.owners.size 0
      (g.visibleRoots roots) = before ++ v :: after)
    (hlast : v.node.id ∉ after.map (·.node.id)) :
    (g.visibleTree roots policy).find? v.node.id = some v.node := by
  unfold VisibleTree.find?
  show (List.foldl _ _ (g.visits (g.visibleTree roots policy).depthLimit g.owners.size 0
    (g.visibleRoots roots)))[_]? = _
  rw [hvisits, getElem?_foldl_insert (fun u : Visit => u.node.id) (fun u => u.node),
    List.reverse_append, List.reverse_cons, List.append_assoc, List.find?_append]
  have hnone : after.reverse.find? (fun u => u.node.id = v.node.id) = none := by
    rw [List.find?_eq_none]
    intro u hu heq
    refine hlast (List.mem_map.mpr ⟨u, List.mem_reverse.mp hu, ?_⟩)
    simpa using heq
  rw [hnone]
  simp

/-- The last place of a node in the order is that of a visit, whose record the tree has kept. -/
theorem exists_last_visit {roots : List NodeId} {policy : DepthPolicy} {before after : List NodeId}
    {id : NodeId} (hsplit : (g.visibleTree roots policy).order = before ++ id :: after)
    (hlast : id ∉ after) :
    ∃ visitsBefore v visitsAfter, g.visits (g.visibleTree roots policy).depthLimit g.owners.size 0
        (g.visibleRoots roots) = visitsBefore ++ v :: visitsAfter
      ∧ v.node.id = id ∧ visitsAfter.map (·.node.id) = after
      ∧ (g.visibleTree roots policy).find? id = some v.node := by
  obtain ⟨visitsBefore, rest, hvisits, -, hrest⟩ := List.map_eq_append_iff.mp
    (show (g.visits (g.visibleTree roots policy).depthLimit g.owners.size 0
      (g.visibleRoots roots)).map (·.node.id) = before ++ id :: after from hsplit)
  obtain ⟨v, visitsAfter, rfl, rfl, rfl⟩ := List.map_eq_cons_iff.mp hrest
  exact ⟨visitsBefore, v, visitsAfter, hvisits, rfl, rfl, find?_visibleTree hvisits hlast⟩

/-- The record of a node in the order of a tree is its own. -/
theorem exists_find?_visibleTree {roots : List NodeId} {policy : DepthPolicy} {id : NodeId}
    (hid : id ∈ (g.visibleTree roots policy).order) :
    ∃ n, (g.visibleTree roots policy).find? id = some n ∧ n.id = id := by
  obtain ⟨before, after, hsplit, hlast⟩ := VisibleTree.exists_last_place hid
  obtain ⟨_, v, _, -, hname, -, hrecord⟩ := exists_last_visit hsplit hlast
  exact ⟨v.node, hrecord, hname⟩

/-- In the tree of a scene that comes about, the children of a node come after it. -/
theorem comesAfter_of_mem_childrenOf (hg : g.Reachable) (roots : List NodeId)
    (policy : DepthPolicy) {a c : NodeId} (hc : c ∈ (g.visibleTree roots policy).childrenOf a) :
    (g.visibleTree roots policy).ComesAfter a c := by
  obtain ⟨rank, hrank⟩ := hg.exists_ranked
  intro before after hsplit hlast
  have hfollowed : Followed (g.visits (g.visibleTree roots policy).depthLimit g.owners.size 0
      (g.visibleRoots roots)) :=
    followed_visits hrank (fun _ _ h => hg.id_of_find? h) _ _ _ fun id _ => hrank.le id
  obtain ⟨visitsBefore, v, visitsAfter, hvisits, rfl, rfl, hrecord⟩ :=
    exists_last_visit hsplit hlast
  unfold VisibleTree.childrenOf at hc
  rw [hrecord] at hc
  rw [hvisits] at hfollowed
  exact hfollowed.mem_after c hc

/-- So does all that lies below it. -/
theorem comesAfter_of_mem_descendants (hg : g.Reachable) (roots : List NodeId)
    (policy : DepthPolicy) {a x : NodeId} (hx : x ∈ (g.visibleTree roots policy).descendants a) :
    (g.visibleTree roots policy).ComesAfter a x :=
  VisibleTree.comesAfter_of_mem_descendants'
    (fun _ _ => comesAfter_of_mem_childrenOf hg roots policy) hx

end SceneGraph

end SceneCompiler
