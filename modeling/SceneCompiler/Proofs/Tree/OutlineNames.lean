import Mathlib
import SceneCompiler.Proofs.Tree.Outline
/-!
# Names in an outline

A name that is too long for an outline is cut, and what is left of it ends in an ellipsis, which
takes up one of the characters that there is room for. So every limit is kept but the smallest one:
where there is room for no character at all the ellipsis is still there.

* `length_truncateName`: how long a name is after it is cut.
* `abbreviates_truncateName_iff`: which names are cut as they should be.
* `forall_mem_records_outline`: what holds of the record of every node holds in an outline.
* `nodes_outline_filter`: roots that are missing or hidden make no difference to what is shown.
* `outline_abbreviates_iff`: the nodes of an outline, and which of their names keep the limit.
-/

namespace SceneCompiler

/-! ## Cutting a name -/

/-- How a name is shown where there is room for some characters: in full if it fits, and otherwise
as a part of its start with an ellipsis, which take up all the room. -/
structure Abbreviates (limit : Nat) (name shown : String) : Prop where
  fits : shown.length ≤ limit
  whole : name.length ≤ limit → shown = name
  cut : limit < name.length → shown.length = limit
    ∧ ∃ start rest, rest ≠ "" ∧ name = start ++ rest ∧ shown = start ++ "…"

theorem truncateName_of_le {limit : Nat} {name : String} (h : name.length ≤ limit) :
    truncateName limit name = name :=
  if_pos h

/-- A name that is too long keeps its start, and loses something. -/
theorem exists_truncateName_eq {limit : Nat} {name : String} (h : limit < name.length) :
    ∃ start rest, rest ≠ "" ∧ name = start ++ rest ∧ truncateName limit name = start ++ "…" := by
  -- At a limit of zero nothing is kept, as at a limit of one.
  refine ⟨String.ofList (name.toList.take (limit - 1)),
    String.ofList (name.toList.drop (limit - 1)), ?_, ?_, ?_⟩
  · have hlonger : limit - 1 < name.toList.length := by
      rw [String.length_toList]
      omega
    rw [Ne, String.ofList_eq_empty_iff, List.drop_eq_nil_iff]
    exact hlonger.not_ge
  · rw [← String.ofList_append, List.take_append_drop, String.ofList_toList]
  · rw [truncateName, if_neg h.not_ge, String.ofList_append]

/-- The ellipsis is there even where there is no room for it. -/
theorem length_truncateName (limit : Nat) (name : String) :
    (truncateName limit name).length = min name.length (max limit 1) := by
  unfold truncateName
  split
  · omega
  · rw [String.length_ofList, List.length_append, List.length_take, String.length_toList,
      List.length_singleton]
    omega

/-- A name is shown as it should be if there is room for an ellipsis, or nothing to show. -/
theorem abbreviates_truncateName_iff {limit : Nat} {name : String} :
    Abbreviates limit name (truncateName limit name) ↔ (limit = 0 → name = "") := by
  have hlength := length_truncateName limit name
  constructor
  · rintro h rfl
    have hfits := h.fits
    rw [← String.length_eq_zero_iff]
    omega
  · intro hroom
    have hempty : limit = 0 → name.length = 0 := fun h => String.length_eq_zero_iff.mpr (hroom h)
    constructor
    case fits => omega
    case whole => exact truncateName_of_le
    case cut => exact fun hlong => ⟨by omega, exists_truncateName_eq hlong⟩

theorem truncateName_zero {name : String} (h : name ≠ "") : truncateName 0 name = "…" := by
  have hlong : ¬ name.length ≤ 0 := by
    rwa [Nat.le_zero, String.length_eq_zero_iff]
  rw [truncateName, if_neg hlong]
  rfl

/-! ## Records of an outline -/

namespace OutlineNode

mutual

/-- The records of a node of an outline and of all below it, in pre-order. -/
def records : OutlineNode → List OutlineRecord
  | .node record none => [record]
  | .node record (some children) => record :: listRecords children

def listRecords : List OutlineNode → List OutlineRecord
  | [] => []
  | n :: rest => n.records ++ listRecords rest

end

@[simp] theorem listRecords_nil : listRecords [] = [] := by
  rw [listRecords]

theorem listRecords_append (a b : List OutlineNode) :
    listRecords (a ++ b) = listRecords a ++ listRecords b := by
  induction a with
  | nil => rw [listRecords_nil, List.nil_append, List.nil_append]
  | cons n rest ih => rw [List.cons_append, listRecords, listRecords, ih, List.append_assoc]

@[simp] theorem listRecords_singleton (n : OutlineNode) : listRecords [n] = n.records := by
  rw [listRecords, listRecords_nil, List.append_nil]

mutual

theorem map_id_records : ∀ n : OutlineNode, n.records.map (·.id) = n.ids
  | .node record none => by
    rw [records, ids_leaf, List.map_singleton]
  | .node record (some children) => by
    rw [records, ids_node, List.map_cons, map_id_listRecords children]

theorem map_id_listRecords : ∀ ns : List OutlineNode, (listRecords ns).map (·.id) = listIds ns
  | [] => by
    rw [listRecords_nil, listIds_nil, List.map_nil]
  | n :: rest => by
    rw [listRecords, listIds, List.map_append, map_id_records n, map_id_listRecords rest]

end

end OutlineNode

/-- The records in an outline, in pre-order. -/
def Outline.records (o : Outline) : List OutlineRecord :=
  OutlineNode.listRecords o.nodes

namespace SceneGraph

open OutlineNode (listRecords listRecords_nil listRecords_append listRecords_singleton)

variable {g : SceneGraph} {roots : List NodeId} {depth : Option Nat} {limits : Limits}

section Invariant

variable {P : OutlineRecord → Prop}

/-- What holds in the outline of each node holds in the outlines of siblings. -/
theorem forall_mem_records_outlineSiblings
    {one : OutlineBudget → NodeId → Option OutlineNode × OutlineBudget}
    (hone : ∀ b id, ∀ r ∈ listRecords (one b id).1.toList, P r) (ids : List NodeId)
    (b : OutlineBudget) : ∀ r ∈ listRecords (outlineSiblings one b ids).1, P r := by
  induction ids generalizing b with
  | nil => simp [outlineSiblings]
  | cons id rest ih =>
    rw [outlineSiblings]
    split
    · simp
    · intro r hr
      rw [listRecords_append, List.mem_append] at hr
      exact hr.elim (hone b id r) (ih _ r)

variable (hrecord : ∀ id n, g.find? id = some n → P (OutlineRecord.of limits n))
include hrecord

/-- The recursion makes no record but those of nodes. -/
theorem forall_mem_records_outlineNode (maxDepth fuel level : Nat) (b : OutlineBudget)
    (id : NodeId) :
    ∀ r ∈ listRecords (g.outlineNode limits maxDepth fuel level b id).1.toList, P r := by
  induction fuel generalizing level b id with
  | zero => simp [outlineNode]
  | succ fuel ih =>
    rw [outlineNode]
    split
    · simp
    · next n hn =>
      have hself := hrecord id n (Option.filter_eq_some_iff.mp hn).1
      have hleaf : ∀ r ∈ listRecords [.node (OutlineRecord.of limits n) none], P r := by
        simpa [OutlineNode.records] using hself
      dsimp only
      -- The node has no visible children, or it is on the last level, or it shows some of them.
      split
      case isTrue => exact hleaf
      split
      case isTrue => exact hleaf
      have hbelow := forall_mem_records_outlineSiblings (ih (level + 1)) (g.visibleChildIds id)
        { b with room := b.room - 1 }
      simpa [OutlineNode.records] using ⟨hself, hbelow⟩

/-- What holds of the record of every node holds of all records in an outline. -/
theorem forall_mem_records_outline : ∀ r ∈ (g.outline roots depth limits).records, P r :=
  forall_mem_records_outlineSiblings (forall_mem_records_outlineNode hrecord _ _ 0) roots _

end Invariant

/-! ## Hidden roots -/

theorem outlineSiblings_no_room {one : OutlineBudget → NodeId → Option OutlineNode × OutlineBudget}
    {b : OutlineBudget} (hroom : b.room = 0) (ids : List NodeId) :
    (outlineSiblings one b ids).1 = [] := by
  cases ids with
  | nil => rfl
  | cons id rest => rw [outlineSiblings, if_pos hroom]

/-- Siblings without an outline make no difference. -/
theorem outlineSiblings_filter {one : OutlineBudget → NodeId → Option OutlineNode × OutlineBudget}
    {p : NodeId → Bool} (hone : ∀ id, p id = false → ∀ b, one b id = (none, b)) (ids : List NodeId)
    (b : OutlineBudget) :
    (outlineSiblings one b (ids.filter p)).1 = (outlineSiblings one b ids).1 := by
  induction ids generalizing b with
  | nil => rfl
  | cons id rest ih =>
    by_cases hroom : b.room = 0
    · -- The flags may differ, as only one of the two lists need have a node that is dropped.
      rw [outlineSiblings_no_room hroom, outlineSiblings_no_room hroom]
    · rw [outlineSiblings, if_neg hroom]
      cases hp : p id with
      | false =>
        rw [List.filter_cons_of_neg (by simp [hp]), hone id hp b]
        exact ih b
      | true =>
        rw [List.filter_cons_of_pos hp, outlineSiblings, if_neg hroom]
        exact congrArg (_ ++ ·) (ih _)

theorem outlineNode_of_hidden (maxDepth fuel level : Nat) {id : NodeId}
    (h : g.isVisible id = false) (b : OutlineBudget) :
    g.outlineNode limits maxDepth fuel level b id = (none, b) := by
  cases fuel with
  | zero => rfl
  | succ fuel =>
    have hnone : (g.find? id).filter (·.visible) = none := by
      rw [Option.filter_eq_none_iff]
      intro n hn hvisible
      rw [isVisible, hn] at h
      exact Bool.false_ne_true (h.symm.trans hvisible)
    rw [outlineNode, hnone]

/-- An outline shows the same nodes without the roots that are missing or hidden. -/
theorem nodes_outline_filter (roots : List NodeId) (depth : Option Nat) (limits : Limits) :
    (g.outline (roots.filter g.isVisible) depth limits).nodes
      = (g.outline roots depth limits).nodes :=
  outlineSiblings_filter (fun _ hid b => outlineNode_of_hidden _ _ 0 hid b) roots _

/-! ## Names -/

/-- An outline shows the first nodes in the listing of its visible roots, as many as there is room
for. Each of them has its own name, cut to the limit as it should be, unless the limit is zero and
the name is not empty: then the ellipsis stands there alone, and is longer than the limit. -/
theorem outline_abbreviates_iff (hg : g.Reachable) (roots : List NodeId) (depth : Option Nat)
    (limits : Limits) :
    (g.outline roots depth limits).records.map (·.id)
        = (g.listing (outlineDepth depth limits) (roots.filter g.isVisible)).take
          limits.structureMaxNodes
      ∧ ∀ r ∈ (g.outline roots depth limits).records, ∃ n, g.find? r.id = some n
        ∧ (Abbreviates limits.structureMaxNameChars n.name r.name
          ↔ (limits.structureMaxNameChars = 0 → n.name = ""))
        ∧ (limits.structureMaxNameChars = 0 → n.name ≠ "" → r.name = "…") := by
  constructor
  · have hvisible : ∀ id ∈ roots.filter g.isVisible, g.isVisible id := fun id hid =>
      (List.mem_filter.mp hid).2
    rw [← (outline_shows hg hvisible depth limits).1, Outline.ids, nodes_outline_filter]
    exact OutlineNode.map_id_listRecords _
  · refine forall_mem_records_outline fun id n hn => ⟨n, ?_, abbreviates_truncateName_iff, ?_⟩
    · -- The record tells the name that the node has, and the node is found under that one.
      exact (congrArg g.find? (hg.id_of_find? hn)).trans hn
    · intro hzero hname
      rw [OutlineRecord.of, hzero, truncateName_zero hname]

/-! ### A card with a title -/

/-- A card that holds its title. -/
def titledCard : SceneGraph :=
  (({} : SceneGraph).addRoot { id := ⟨"f"⟩, type := .frame, name := "Größe" }).addNode 0
    { id := ⟨"t"⟩, type := .text, name := "Maß" }

theorem reachable_titledCard : titledCard.Reachable := by
  refine (Reachable.empty.addRoot _).addNode ?_ _
  rw [Std.ExtTreeMap.mem_iff_contains]
  decide +kernel

/-- With room for three characters the name of the card is cut and that of the title is not. The
root that is missing is left out. -/
theorem outline_titledCard :
    titledCard.Reachable
      ∧ (titledCard.outline [⟨"x"⟩, ⟨"f"⟩] none { structureMaxNameChars := 3 }).records.map (·.id)
        = [⟨"f"⟩, ⟨"t"⟩]
      ∧ (titledCard.outline [⟨"x"⟩, ⟨"f"⟩] none { structureMaxNameChars := 3 }).records.map (·.name)
        = ["Gr…", "Maß"]
      ∧ ∀ r ∈ (titledCard.outline [⟨"x"⟩, ⟨"f"⟩] none { structureMaxNameChars := 3 }).records,
        ∃ n, titledCard.find? r.id = some n ∧ Abbreviates 3 n.name r.name := by
  have hlisting : titledCard.listing 8 ([⟨"x"⟩, ⟨"f"⟩].filter titledCard.isVisible)
      = [⟨"f"⟩, ⟨"t"⟩] := by decide +kernel
  obtain ⟨hids, hnames⟩ := outline_abbreviates_iff reachable_titledCard [⟨"x"⟩, ⟨"f"⟩] none
    { structureMaxNameChars := 3 }
  rw [show outlineDepth none _ = 8 from rfl, hlisting] at hids
  refine ⟨reachable_titledCard, hids, by decide +kernel, fun r hr => ?_⟩
  obtain ⟨n, hn, habbreviates, -⟩ := hnames r hr
  exact ⟨n, hn, habbreviates.mpr fun hzero => absurd hzero (by decide)⟩

/-- A caller may leave no room for names. Then they are longer than the limit. -/
theorem outline_overfills :
    Limits.ofJson? (.obj [("structure_max_name_chars", .ofNat 0)])
        = some { structureMaxNameChars := 0 }
      ∧ titledCard.Reachable
      ∧ (titledCard.outline [⟨"f"⟩] none { structureMaxNameChars := 0 }).records.map (·.name)
        = ["…", "…"]
      ∧ ¬ ∀ r ∈ (titledCard.outline [⟨"f"⟩] none { structureMaxNameChars := 0 }).records,
        r.name.length ≤ 0 := by
  exact ⟨rfl, reachable_titledCard, by decide +kernel, by decide +kernel⟩

end SceneGraph

end SceneCompiler
