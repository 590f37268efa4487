import Mathlib
import SceneCompiler.Proofs.Scene.Forest
/-!
# Loaded scenes

Loading adds the nodes of a document one after the other, each in front of its children. As no slot
is ever freed, the next slot is always the one behind all others: the nodes of a document take the
slots in the order in which they are listed, and a new child comes behind the children before it.
So every subtree takes slots next to each other, what is added later only touches the slot of its
own parent, and the subtrees before stay as they are.

* `SitsAt`, `SitFrom`: where the nodes of a document are found in a scene.
* `Unfreed.extended_place`: one node more.
* `insertDocument_sitsAt`: a document more.
* `Mirrors`, `mirrors_ofText?`: a loaded scene mirrors its document.
-/

namespace SceneCompiler

/-! ## Documents -/

namespace NodeDocument

def record : NodeDocument → SceneNode
  | .node record _ => record

def children : NodeDocument → List NodeDocument
  | .node _ children => children

/-- The name of the top. -/
def id (d : NodeDocument) : NodeId :=
  d.record.id

mutual

/-- The names in a document, in the order in which it lists them. -/
def ids : NodeDocument → List NodeId
  | .node record children => record.id :: idsOfAll children

def idsOfAll : List NodeDocument → List NodeId
  | [] => []
  | d :: rest => d.ids ++ idsOfAll rest

end

/-- A node stands among some top-level ones, with the nodes that enclose it from the inside out. -/
inductive StandsIn (roots : List NodeDocument) : List NodeDocument → NodeDocument → Prop where
  | root {d : NodeDocument} (h : d ∈ roots) : StandsIn roots [] d
  | child {enclosing : List NodeDocument} {d c : NodeDocument} (h : StandsIn roots enclosing d)
      (hc : c ∈ d.children) : StandsIn roots (d :: enclosing) c

mutual

/-- A name in a document is that of a node that stands there. -/
theorem StandsIn.exists_of_mem_ids {roots : List NodeDocument} {name : NodeId} :
    ∀ {d : NodeDocument} {enclosing : List NodeDocument}, StandsIn roots enclosing d →
      name ∈ d.ids → ∃ enclosing n, StandsIn roots enclosing n ∧ n.id = name
  | .node record children, enclosing => by
    intro h hname
    rcases List.mem_cons.mp hname with rfl | hname
    · exact ⟨enclosing, _, h, rfl⟩
    · exact exists_standsIn_of_mem_idsOfAll (fun c hc => .child h hc) hname

theorem exists_standsIn_of_mem_idsOfAll {roots : List NodeDocument} {name : NodeId} :
    ∀ {ds : List NodeDocument} {enclosing : List NodeDocument},
      (∀ d ∈ ds, StandsIn roots enclosing d) →
      name ∈ idsOfAll ds → ∃ enclosing n, StandsIn roots enclosing n ∧ n.id = name
  | [], _ => nofun
  | d :: rest, enclosing => by
    intro h hname
    rcases List.mem_append.mp hname with hname | hname
    · exact (h d List.mem_cons_self).exists_of_mem_ids hname
    · exact exists_standsIn_of_mem_idsOfAll
        (fun other hother => h other (List.mem_cons_of_mem d hother)) hname

end

end NodeDocument

def SceneDocument.ids (d : SceneDocument) : List NodeId :=
  NodeDocument.idsOfAll d.roots

/-- The document that is read from a text. -/
def SceneDocument.ofText? (text : String) : Option SceneDocument :=
  (Json.readShape? SceneDocument.shape text).bind SceneDocument.ofJson?

namespace SceneGraph

open NodeDocument

/-- A scene has the nodes of a document just as that nests them. -/
structure Mirrors (g : SceneGraph) (d : SceneDocument) : Prop where
  roots : g.rootIds = d.roots.map NodeDocument.id
  record : ∀ enclosing n, StandsIn d.roots enclosing n → g.find? n.id = some n.record
  children : ∀ enclosing n, StandsIn d.roots enclosing n →
    g.childIds n.id = n.children.map NodeDocument.id
  parent : ∀ enclosing n, StandsIn d.roots enclosing n → ∃ i, g.indexOf? n.id = some i
    ∧ g.parent? i = enclosing.head?.bind fun p => g.indexOf? p.id
  visible : ∀ enclosing n, StandsIn d.roots enclosing n →
    (g.isEffectivelyVisible n.id = true
      ↔ n.record.visible = true ∧ ∀ p ∈ enclosing, p.record.visible = true)
  nothingElse : ∀ id, (g.indexOf? id).isSome →
    ∃ enclosing n, StandsIn d.roots enclosing n ∧ n.id = id

/-! ## Where nodes sit -/

/-- The slots of nodes one after the other, each with all that is below it. -/
def slotsFrom (i : SlotIndex) : List NodeDocument → List SlotIndex
  | [] => []
  | d :: rest => i :: slotsFrom (i + d.ids.length) rest

mutual

/-- A document sits in the slots from a number on, and its names lead there. -/
def SitsAt (g : SceneGraph) (parent : Option SlotIndex) (i : SlotIndex) : NodeDocument → Prop
  | .node record children => g.slots[i]? = some ⟨record, parent, slotsFrom (i + 1) children⟩
    ∧ g.owners[record.id]? = some i ∧ g.SitFrom (some i) (i + 1) children

def SitFrom (g : SceneGraph) (parent : Option SlotIndex) (i : SlotIndex) :
    List NodeDocument → Prop
  | [] => True
  | d :: rest => g.SitsAt parent i d ∧ g.SitFrom parent (i + d.ids.length) rest

end

variable {g g' g'' : SceneGraph} {parent : Option SlotIndex} {i : SlotIndex}

mutual

/-- Documents depend on their own slots and names only. -/
theorem SitsAt.congr : ∀ {d : NodeDocument} {parent : Option SlotIndex} {i : SlotIndex},
    g.SitsAt parent i d →
    (∀ k, i ≤ k → k < i + d.ids.length → g'.slots[k]? = g.slots[k]?) →
    (∀ id ∈ d.ids, g'.owners[id]? = g.owners[id]?) → g'.SitsAt parent i d
  | .node record children, parent, i => by
    rintro ⟨hslot, howner, hchildren⟩ hslots howners
    rw [ids, List.length_cons] at hslots
    refine ⟨?_, ?_, hchildren.congr (fun k hle hlt => ?_) fun id hid => ?_⟩
    · rw [hslots i le_rfl (by grind), hslot]
    · rw [howners record.id List.mem_cons_self, howner]
    · exact hslots k (by grind) (by grind)
    · exact howners id (List.mem_cons_of_mem _ hid)

theorem SitFrom.congr : ∀ {ds : List NodeDocument} {parent : Option SlotIndex} {i : SlotIndex},
    g.SitFrom parent i ds →
    (∀ k, i ≤ k → k < i + (idsOfAll ds).length → g'.slots[k]? = g.slots[k]?) →
    (∀ id ∈ idsOfAll ds, g'.owners[id]? = g.owners[id]?) → g'.SitFrom parent i ds
  | [], _, _ => fun _ _ _ => trivial
  | d :: rest, parent, i => by
    rintro ⟨hd, hrest⟩ hslots howners
    rw [idsOfAll, List.length_append] at hslots
    refine ⟨hd.congr (fun k hle hlt => ?_) fun id hid => ?_,
      hrest.congr (fun k hle hlt => ?_) fun id hid => ?_⟩
    · exact hslots k hle (by grind)
    · exact howners id (List.mem_append_left _ hid)
    · exact hslots k (by grind) (by grind)
    · exact howners id (List.mem_append_right _ hid)

end

section Sitting

variable {d : NodeDocument} {ds : List NodeDocument}

theorem SitsAt.slot (h : g.SitsAt parent i d) :
    g.slots[i]? = some ⟨d.record, parent, slotsFrom (i + 1) d.children⟩ := by
  cases d
  exact h.1

theorem SitsAt.indexOf? (h : g.SitsAt parent i d) : g.indexOf? d.id = some i := by
  cases d
  exact h.2.1

theorem SitsAt.sitFrom (h : g.SitsAt parent i d) : g.SitFrom (some i) (i + 1) d.children := by
  cases d
  exact h.2.2

theorem SitFrom.exists_sitsAt (h : g.SitFrom parent i ds) (hd : d ∈ ds) :
    ∃ k, g.SitsAt parent k d := by
  induction ds generalizing i with
  | nil => cases hd
  | cons first rest ih =>
    rcases List.mem_cons.mp hd with rfl | hd
    · exact ⟨i, h.1⟩
    · exact ih h.2 hd

theorem SitFrom.idsAt_slotsFrom (h : g.SitFrom parent i ds) :
    g.idsAt (slotsFrom i ds) = ds.map NodeDocument.id := by
  induction ds generalizing i with
  | nil => rfl
  | cons first rest ih =>
    have hfirst : (g.nodeAt? i).map (·.id) = some first.id := by
      rw [nodeAt?, h.1.slot]
      rfl
    rw [slotsFrom, List.map_cons, ← ih h.2]
    unfold idsAt
    rw [List.filterMap_cons, hfirst]

end Sitting

/-! ## Adding without removing -/

/-- A scene that comes about without a removal. -/
structure Unfreed (g : SceneGraph) : Prop where
  reachable : g.Reachable
  free : g.free = []

/-- The scene has new slots behind the ones before, with some names. A slot before, or the top
level, lists some of the new ones besides its own; otherwise nothing has changed. -/
structure Extended (g g' : SceneGraph) (parent : Option SlotIndex) (added : List SlotIndex)
    (names : List NodeId) : Prop where
  unfreed : Unfreed g'
  size : g'.slots.size = g.slots.size + names.length
  slots : ∀ i < g.slots.size, g'.slots[i]? =
    if parent = some i then g.slots[i]?.map fun s => { s with children := s.children ++ added }
    else g.slots[i]?
  roots : g'.roots = if parent = none then g.roots ++ added else g.roots
  owners : ∀ id, id ∉ names → g'.owners[id]? = g.owners[id]?

theorem insertIndex_of_lt {l : List SlotIndex} (h : ∀ j ∈ l, j < i) : insertIndex i l = l ++ [i] := by
  induction l with
  | nil => rfl
  | cons j rest ih =>
    rw [insertIndex, if_neg (h j List.mem_cons_self).le.not_gt,
      ih fun k hk => h k (List.mem_cons_of_mem _ hk), List.cons_append]

namespace Unfreed

theorem empty : Unfreed {} :=
  ⟨.empty, rfl⟩

theorem nextIndex (hg : Unfreed g) : g.nextIndex = g.slots.size :=
  nextIndex_of_unfreed hg.free

theorem lt_size (hg : Unfreed g) (hi : i ∈ g.slots) : i < g.slots.size := by
  obtain ⟨stamp, bound, haged⟩ := hg.reachable.exists_aged
  exact haged.lt_size hg.free hi

theorem lt_size_of_child (hg : Unfreed g) {s : Slot} (hs : g.slots[i]? = some s) {j : SlotIndex}
    (hj : j ∈ s.children) : j < g.slots.size := by
  obtain ⟨stamp, bound, haged⟩ := hg.reachable.exists_aged
  obtain ⟨t, ht, -⟩ := haged.child i s hs j hj
  exact hg.lt_size (mem_slots.mpr ⟨t, ht⟩)

theorem inserted_place (hg : Unfreed g) (parent : Option SlotIndex) (record : SceneNode) :
    Inserted g (g.place parent record) parent record := by
  obtain ⟨stamp, bound, haged⟩ := hg.reachable.exists_aged
  cases parent with
  | none => exact inserted_addRoot haged record
  | some p => exact inserted_addNode haged record

/-- A node comes behind all others, and behind the other children of its parent. -/
theorem extended_place (hg : Unfreed g) (hparent : ∀ p, parent = some p → p ∈ g.slots)
    (record : SceneNode) :
    Extended g (g.place parent record) parent [g.slots.size] [record.id] where
  unfreed :=
    ⟨hg.reachable.place hparent record, by
      rw [(hg.inserted_place parent record).free, hg.free, List.tail_nil]⟩
  size := by
    rw [(hg.inserted_place parent record).size, List.length_singleton]
  slots i hi := by
    rw [(hg.inserted_place parent record).slots, hg.nextIndex, if_neg hi.ne']
    cases hs : g.slots[i]? with
    | none => rfl
    | some s =>
      rw [Option.map_some, Option.map_some,
        insertIndex_of_lt fun j hj => hg.lt_size_of_child hs hj]
  roots := by
    rw [← hg.nextIndex]
    cases parent <;> rfl
  owners id hid := by
    have hne : ¬ compare record.id id = .eq := fun heq =>
      hid (List.mem_singleton.mpr (Std.compare_eq_iff_eq.mp heq).symm)
    rw [(hg.inserted_place parent record).owners, Std.ExtTreeMap.getElem?_insert, if_neg hne]

theorem slots_place (hg : Unfreed g) (parent : Option SlotIndex) (record : SceneNode) :
    (g.place parent record).slots[g.slots.size]? = some ⟨record, parent, []⟩ := by
  rw [(hg.inserted_place parent record).slots, if_pos hg.nextIndex]

theorem owners_place (hg : Unfreed g) (parent : Option SlotIndex) (record : SceneNode) :
    (g.place parent record).owners[record.id]? = some g.slots.size := by
  rw [(hg.inserted_place parent record).owners, Std.ExtTreeMap.getElem?_insert_self, hg.nextIndex]

end Unfreed

namespace Extended

variable {added added' : List SlotIndex} {names names' : List NodeId}

theorem refl (hg : Unfreed g) (parent : Option SlotIndex) : Extended g g parent [] [] where
  unfreed := hg
  size := rfl
  slots i _ := by
    simp only [List.append_nil]
    cases g.slots[i]? <;> simp
  roots := by
    rw [List.append_nil, ite_self]
  owners _ _ := rfl

theorem size_le (h : Extended g g' parent added names) : g.slots.size ≤ g'.slots.size :=
  h.size ▸ Nat.le_add_right _ _

theorem owners_append (h : Extended g g' parent added names)
    {other : Option SlotIndex} (h' : Extended g' g'' other added' names') :
    ∀ id, id ∉ names ++ names' → g''.owners[id]? = g.owners[id]? := by
  intro id hid
  rw [List.mem_append, not_or] at hid
  rw [h'.owners id hid.2, h.owners id hid.1]

/-- What comes below a slot that is new is new altogether. -/
theorem below (h : Extended g g' parent added names) {new : SlotIndex} (hnew : g.slots.size ≤ new)
    (h' : Extended g' g'' (some new) added' names') :
    Extended g g'' parent added (names ++ names') where
  unfreed := h'.unfreed
  size := by rw [h'.size, h.size, List.length_append, Nat.add_assoc]
  slots i hi := by
    have hne : ¬ some new = some i := fun heq => absurd (Option.some.inj heq) (hi.trans_le hnew).ne'
    rw [h'.slots i (hi.trans_le h.size_le), if_neg hne, h.slots i hi]
  roots := by
    rw [h'.roots, if_neg nofun, h.roots]
  owners := h.owners_append h'

theorem trans (h : Extended g g' parent added names)
    (h' : Extended g' g'' parent added' names') :
    Extended g g'' parent (added ++ added') (names ++ names') where
  unfreed := h'.unfreed
  size := by rw [h'.size, h.size, List.length_append, Nat.add_assoc]
  slots i hi := by
    rw [h'.slots i (hi.trans_le h.size_le), h.slots i hi]
    by_cases hp : parent = some i
    · simp [hp, Option.map_map, Function.comp_def]
    · rw [if_neg hp, if_neg hp, if_neg hp]
  roots := by
    rw [h'.roots, h.roots]
    split
    · rw [List.append_assoc]
    · rfl
  owners := h.owners_append h'

theorem mem_slots (h : Extended g g' parent added names) (hg : Unfreed g) (hi : i ∈ g.slots) :
    i ∈ g'.slots := by
  obtain ⟨s, hs⟩ := SceneGraph.mem_slots.mp hi
  have hslot := h.slots i (hg.lt_size hi)
  rw [hs] at hslot
  apply SceneGraph.mem_slots.mpr
  split at hslot
  · exact ⟨_, hslot⟩
  · exact ⟨_, hslot⟩

end Extended

/-! ## Adding documents -/

mutual

/-- A document is added behind all nodes that there are. -/
theorem insertDocument_sitsAt : ∀ (d : NodeDocument) {g : SceneGraph} {parent : Option SlotIndex},
    Unfreed g → (∀ p, parent = some p → p ∈ g.slots) → d.ids.Nodup →
    Extended g (g.insertDocument parent d) parent [g.slots.size] d.ids
      ∧ (g.insertDocument parent d).SitsAt parent g.slots.size d
  | .node record children, g, parent => by
    intro hg hparent hapart
    obtain ⟨hrecord, hchildren⟩ := List.nodup_cons.mp hapart
    have hfirst := hg.extended_place hparent record
    have hslot := hg.slots_place parent record
    have howner := hg.owners_place parent record
    have hfilled : ∀ p, some g.slots.size = some p → p ∈ (g.place parent record).slots := by
      rintro _ ⟨⟩
      exact mem_slots.mpr ⟨_, hslot⟩
    obtain ⟨hrest, hsit⟩ := insertDocuments_sitFrom children hfirst.unfreed hfilled hchildren
    have hsize : (g.place parent record).slots.size = g.slots.size + 1 := hfirst.size
    have hown := hrest.slots g.slots.size (hsize ▸ Nat.lt_succ_self _)
    rw [if_pos rfl, hslot, hsize] at hown
    rw [hsize] at hsit
    rw [insertDocument_node, hg.nextIndex]
    exact ⟨hfirst.below le_rfl hrest, hown, (hrest.owners record.id hrecord).trans howner, hsit⟩

theorem insertDocuments_sitFrom : ∀ (ds : List NodeDocument) {g : SceneGraph}
    {parent : Option SlotIndex},
    Unfreed g → (∀ p, parent = some p → p ∈ g.slots) → (idsOfAll ds).Nodup →
    Extended g (g.insertDocuments parent ds) parent (slotsFrom g.slots.size ds) (idsOfAll ds)
      ∧ (g.insertDocuments parent ds).SitFrom parent g.slots.size ds
  | [], g, parent => fun hg _ _ => ⟨.refl hg parent, trivial⟩
  | d :: rest, g, parent => by
    intro hg hparent hapart
    obtain ⟨hd, hothers, hdisjoint⟩ := List.nodup_append.mp hapart
    obtain ⟨hfirst, hsits⟩ := insertDocument_sitsAt d hg hparent hd
    obtain ⟨hrest, hsit⟩ := insertDocuments_sitFrom rest hfirst.unfreed
      (fun p hp => hfirst.mem_slots hg (hparent p hp)) hothers
    rw [hfirst.size] at hrest hsit
    refine ⟨hfirst.trans hrest, hsits.congr (fun k hle hlt => ?_) (fun id hid => ?_), hsit⟩
    · -- The parent was there before, so its slot is none of the document's.
      have hne : ¬ parent = some k := fun heq =>
        (hle.trans_lt (hg.lt_size (hparent k heq))).false
      exact (hrest.slots k (hfirst.size ▸ hlt)).trans (if_neg hne)
    · exact hrest.owners id fun hother => hdisjoint id hid id hother rfl

end

/-! ## Loading -/

/-- A loaded scene has the slots, the names and the roots of its nodes. -/
theorem ofDocument_eq (d : SceneDocument) :
    (ofDocument d).slots = (insertDocuments {} none d.roots).slots
      ∧ (ofDocument d).owners = (insertDocuments {} none d.roots).owners
      ∧ (ofDocument d).roots = (insertDocuments {} none d.roots).roots := by
  have hvariables : ∀ (declared : List Variable) (g : SceneGraph),
      (declared.foldl defineVariable g).slots = g.slots
        ∧ (declared.foldl defineVariable g).owners = g.owners
        ∧ (declared.foldl defineVariable g).roots = g.roots := by
    intro declared
    induction declared with
    | nil => exact fun _ => ⟨rfl, rfl, rfl⟩
    | cons v rest ih => exact fun g => ih (g.defineVariable v)
  exact hvariables d.declared _

section Loading

variable {d : SceneDocument} {enclosing : List NodeDocument} {n : NodeDocument}

/-- The documents of a scene sit in its slots from the first on, and no other name is known. -/
theorem ofDocument_sitFrom (hapart : d.ids.Nodup) : (ofDocument d).SitFrom none 0 d.roots
    ∧ (ofDocument d).roots = slotsFrom 0 d.roots
    ∧ ∀ id, id ∉ d.ids → (ofDocument d).indexOf? id = none := by
  have htop : ∀ p, (none : Option SlotIndex) = some p → p ∈ ({} : SceneGraph).slots := nofun
  obtain ⟨hextended, hsit⟩ := insertDocuments_sitFrom d.roots .empty htop hapart
  obtain ⟨hslots, howners, hroots⟩ := ofDocument_eq d
  refine ⟨?_, hroots.trans hextended.roots, fun id hid => ?_⟩
  · exact hsit.congr (fun k _ _ => by rw [hslots]) fun id _ => by rw [howners]
  · rw [indexOf?, howners, hextended.owners id hid]
    simp

theorem exists_sitsAt (hsit : g.SitFrom none 0 d.roots) (h : StandsIn d.roots enclosing n) :
    ∃ i, g.SitsAt (enclosing.head?.bind fun p => g.indexOf? p.id) i n := by
  induction h with
  | root hmem => exact hsit.exists_sitsAt hmem
  | child _ hc ih =>
    obtain ⟨i, hi⟩ := ih
    rw [List.head?_cons, Option.bind_some, hi.indexOf?]
    exact hi.sitFrom.exists_sitsAt hc

theorem SitsAt.parent? (h : g.SitsAt parent i n) : g.parent? i = parent :=
  parent?_of_slot h.slot

theorem SitsAt.nodeAt? (h : g.SitsAt parent i n) : g.nodeAt? i = some n.record := by
  rw [SceneGraph.nodeAt?, h.slot, Option.map_some]

theorem SitsAt.shown_iff (h : g.SitsAt parent i n) : g.Shown i ↔ n.record.visible = true := by
  rw [← any_visible_eq_true, h.nodeAt?, Option.any_some]

theorem SitsAt.above_iff (h : g.SitsAt parent i n) {j : SlotIndex} :
    g.Above j i ↔ j = i ∨ ∃ p, parent = some p ∧ g.Above j p := by
  rw [Above, Relation.ReflTransGen.cases_tail_iff, eq_comm]
  simp only [ParentOf, h.parent?, and_comm]

/-- The slots above a node are its own and those of the nodes that enclose it. -/
theorem forall_shown_iff (hsit : g.SitFrom none 0 d.roots) (h : StandsIn d.roots enclosing n) :
    ∀ i, g.indexOf? n.id = some i → ((∀ j, g.Above j i → g.Shown j)
      ↔ n.record.visible = true ∧ ∀ p ∈ enclosing, p.record.visible = true) := by
  induction h with
  | root hmem =>
    intro i hi
    obtain ⟨k, hk⟩ := hsit.exists_sitsAt hmem
    obtain rfl : i = k := Option.some.inj (hi.symm.trans hk.indexOf?)
    simp [hk.above_iff, hk.shown_iff]
  | @child enclosing p c h hc ih =>
    intro i hi
    obtain ⟨k, hk⟩ := exists_sitsAt hsit h
    obtain ⟨l, hl⟩ := hk.sitFrom.exists_sitsAt hc
    obtain rfl : i = l := Option.some.inj (hi.symm.trans hl.indexOf?)
    have hup := ih k hk.indexOf?
    simp only [hl.above_iff, Option.some.injEq, exists_eq_left', or_imp, forall_and, forall_eq,
      hl.shown_iff, hup, List.mem_cons]

/-- A loaded scene mirrors its document. -/
theorem mirrors_ofDocument (hapart : d.ids.Nodup) : (ofDocument d).Mirrors d := by
  obtain ⟨hsit, hroots, hother⟩ := ofDocument_sitFrom hapart
  have hreach := reachable_ofDocument d
  obtain ⟨stamp, bound, haged⟩ := hreach.exists_aged
  constructor
  case roots => rw [rootIds, hroots, hsit.idsAt_slotsFrom]
  case record =>
    intro enclosing n h
    obtain ⟨i, hi⟩ := exists_sitsAt hsit h
    rw [find?, hi.indexOf?, Option.bind_some, hi.nodeAt?]
  case children =>
    intro enclosing n h
    obtain ⟨i, hi⟩ := exists_sitsAt hsit h
    rw [childIds_of_indexOf? hi.indexOf?, children_of_slot hi.slot, hi.sitFrom.idsAt_slotsFrom]
  case parent =>
    intro enclosing n h
    obtain ⟨i, hi⟩ := exists_sitsAt hsit h
    exact ⟨i, hi.indexOf?, hi.parent?⟩
  case visible =>
    intro enclosing n h
    obtain ⟨i, hi⟩ := exists_sitsAt hsit h
    rw [isEffectivelyVisible_iff haged hreach.linked, ← forall_shown_iff hsit h i hi.indexOf?,
      hi.indexOf?]
    simp
  case nothingElse =>
    intro id hid
    refine exists_standsIn_of_mem_idsOfAll (fun d hd => .root hd) (not_not.mp fun hnot => ?_)
    rw [hother id hnot] at hid
    cases hid

/-- A text is read as a scene just when it is read as a document, and if the names in that are all
different, the scene mirrors it. -/
theorem mirrors_ofText? {text : String} (h : SceneDocument.ofText? text = some d)
    (hapart : d.ids.Nodup) : ∃ g, ofText? text = some g ∧ g.Mirrors d := by
  refine ⟨ofDocument d, ?_, mirrors_ofDocument hapart⟩
  obtain ⟨j, hj, hd⟩ := Option.bind_eq_some_iff.mp h
  rw [ofText?, hj, Option.bind_some, ofJson?, hd, Option.map_some]

end Loading

/-- A frame with a hidden shape in it, and an empty frame behind. -/
def framesText : String :=
  "\x7b\"roots\":[\x7b\"id\":\"f\",\"type\":\"FRAME\",\"children\":"
    ++ "[\x7b\"id\":\"v\",\"type\":\"VECTOR\",\"visible\":false\x7d]\x7d,"
    ++ "\x7b\"id\":\"g\",\"type\":\"FRAME\"\x7d]\x7d"

theorem mirrors_framesText : ∃ d g, SceneDocument.ofText? framesText = some d
    ∧ d.ids = [⟨"f"⟩, ⟨"v"⟩, ⟨"g"⟩] ∧ d.ids.Nodup ∧ ofText? framesText = some g ∧ g.Mirrors d := by
  have hread : (SceneDocument.ofText? framesText).map SceneDocument.ids
      = some [⟨"f"⟩, ⟨"v"⟩, ⟨"g"⟩] := by
    decide +kernel
  obtain ⟨d, hd, hids⟩ := Option.map_eq_some_iff.mp hread
  have hapart : d.ids.Nodup := by
    rw [hids]
    decide
  obtain ⟨g, hg, hmirrors⟩ := mirrors_ofText? hd hapart
  exact ⟨d, g, hd, hids, hapart, hg, hmirrors⟩

end SceneGraph

end SceneCompiler
