import Mathlib
import SceneCompiler.Proofs.Table
import SceneCompiler.Style.Sanitize
/-!
# Places in style maps

A place is a node with one of its properties. The corrections of the styles put new values in few
places, and which those are can be told from the styles before the corrections.

* `value?_sanitize`: the values that the corrections leave alone.
-/

namespace SceneCompiler.StyleMap

/-! ## Values after a change -/

theorem value?_setValue (styles : StyleMap) (id id' : NodeId) (property property' value : String) :
    value? (setValue styles id property value) id' property' =
      if id = id' ∧ property = property' then some value else value? styles id' property' := by
  unfold value? setValue
  rw [Std.ExtTreeMap.getElem?_insert]
  by_cases hid : id = id'
  · rw [if_pos (Std.compare_eq_iff_eq.mpr hid), Option.bind_some, Std.ExtTreeMap.getElem?_insert,
      Std.ExtTreeMap.getD_eq_getD_getElem?, hid]
    by_cases hproperty : property = property'
    · simp [hproperty]
    · have hne : ¬ compare property property' = .eq := by rwa [Std.compare_eq_iff_eq]
      rw [if_neg hne, if_neg (by simp [hproperty])]
      cases styles[id']? <;> simp
  · have hne : ¬ compare id id' = .eq := by rwa [Std.compare_eq_iff_eq]
    rw [if_neg hne, if_neg (by simp [hid])]

theorem getElem?_insertIfNew_eq (d : Declarations) (property property' value : String) :
    (d.insertIfNew property value)[property']?
      = d[property']?.or (if property = property' then some value else none) := by
  rw [Std.ExtTreeMap.getElem?_insertIfNew]
  by_cases hproperty : property = property'
  · subst hproperty
    by_cases hmem : property ∈ d <;> simp [hmem]
  · simp [hproperty]

/-- A default is the value of its place where there was none. -/
theorem value?_setDefault_eq (styles : StyleMap) (id id' : NodeId)
    (property property' value : String) :
    value? (setDefault styles id property value) id' property' = (value? styles id' property').or
      (if id = id' ∧ property = property' then some value else none) := by
  unfold value? setDefault
  rw [Std.ExtTreeMap.getElem?_insert]
  by_cases hid : id = id'
  · subst hid
    rw [if_pos Std.ReflCmp.compare_self, Option.bind_some, getElem?_insertIfNew_eq,
      Std.ExtTreeMap.getD_eq_getD_getElem?]
    cases styles[id]? <;> simp
  · have hne : ¬ compare id id' = .eq := by rwa [Std.compare_eq_iff_eq]
    rw [if_neg hne, if_neg fun h => hid h.1, Option.or_none]

/-- A default changes nothing where there is a value, nor in other places. -/
theorem value?_setDefault {styles : StyleMap} {id' : NodeId} {property' value' : String}
    (h : value? styles id' property' = some value') (id : NodeId) (property value : String) :
    value? (setDefault styles id property value) id' property' = some value' := by
  rw [value?_setDefault_eq, h, Option.some_or]

theorem value?_mapValues (f : String → String) (styles : StyleMap) (id : NodeId)
    (property : String) :
    value? (mapValues f styles) id property = (value? styles id property).map f := by
  unfold value? mapValues
  rw [Std.ExtTreeMap.getElem?_map]
  cases styles[id]? with
  | none => rfl
  | some d => exact Std.ExtTreeMap.getElem?_map

theorem mem_values_iff {styles : StyleMap} {value : String} :
    value ∈ values styles ↔ ∃ id property, value? styles id property = some value := by
  simp only [values, value?, List.mem_flatMap, List.mem_map, Prod.exists,
    Std.ExtTreeMap.mem_toList_iff_getElem?_eq_some, Option.bind_eq_some_iff]
  constructor
  · rintro ⟨id, d, hd, property, _, hvalue, rfl⟩
    exact ⟨id, property, d, hd, hvalue⟩
  · rintro ⟨id, property, d, hd, hvalue⟩
    exact ⟨id, d, hd, property, value, hvalue, rfl⟩

/-! ## Negative gaps -/

/-- The places in which the negative gap of a node puts values: its gap, and the margins of the
children in flow after the first. -/
def gapPlaces (styles : StyleMap) (n : VisibleNode) : List (NodeId × String) :=
  match n.autoLayout with
  | none => []
  | some layout =>
    let inFlow := n.children.filter (isInFlow styles)
    if 0 ≤ layout.itemSpacing ∨ inFlow.length < 2 then []
    else (n.id, "gap") :: inFlow.tail.map fun child => (child, leadingMargin layout.direction)

theorem property_of_mem_gapPlaces {styles : StyleMap} {n : VisibleNode} {id : NodeId}
    {property : String} (h : (id, property) ∈ gapPlaces styles n) :
    property ∈ ["gap", "margin-left", "margin-top"] := by
  unfold gapPlaces at h
  split at h
  · cases h
  · next layout hlayout =>
    dsimp only at h
    split at h
    · cases h
    · rcases List.mem_cons.mp h with heq | hmargin
      · rw [(Prod.mk.inj heq).2]
        decide
      · obtain ⟨child, -, heq⟩ := List.mem_map.mp hmargin
        rw [← (Prod.mk.inj heq).2]
        cases layout.direction <;> decide

theorem ne_position_of_mem_gapPlaces {styles : StyleMap} {n : VisibleNode} {id : NodeId}
    {property : String} (h : (id, property) ∈ gapPlaces styles n) : property ≠ "position" := by
  rintro rfl
  exact absurd (property_of_mem_gapPlaces h) (by decide)

theorem value?_foldl_setValue (property value : String) {id : NodeId} {property' : String}
    (ids : List NodeId) :
    ∀ styles : StyleMap, (id, property') ∉ ids.map (fun child => (child, property)) →
      value? (ids.foldl (fun styles child => setValue styles child property value) styles) id
        property' = value? styles id property' := by
  induction ids with
  | nil => exact fun _ _ => rfl
  | cons child rest ih =>
    intro styles h
    rw [List.map_cons, List.mem_cons, not_or] at h
    rw [List.foldl_cons, ih _ h.2, value?_setValue, if_neg]
    rintro ⟨rfl, rfl⟩
    exact h.1 rfl

/-- One negative gap leaves all other places alone. -/
theorem value?_spreadGap {styles : StyleMap} {n : VisibleNode} {id : NodeId} {property : String}
    (h : (id, property) ∉ gapPlaces styles n) :
    value? (spreadGap styles n) id property = value? styles id property := by
  unfold gapPlaces at h
  unfold spreadGap
  split
  · rfl
  · next layout hlayout =>
    rw [hlayout] at h
    dsimp only at h ⊢
    split
    · rfl
    · next hspread =>
      rw [if_neg hspread, List.mem_cons, not_or] at h
      rw [value?_foldl_setValue _ _ _ _ h.2, value?_setValue, if_neg]
      rintro ⟨rfl, rfl⟩
      exact h.1 rfl

/-- Which places a negative gap touches depends on the positions alone, and no gap touches those. -/
theorem gapPlaces_congr {styles styles' : StyleMap} (n : VisibleNode)
    (h : ∀ id, value? styles' id "position" = value? styles id "position") :
    gapPlaces styles' n = gapPlaces styles n := by
  have hflow : isInFlow styles' = isInFlow styles := by
    funext id
    unfold isInFlow position?
    rw [h]
  unfold gapPlaces
  rw [hflow]

/-- All negative gaps of a list of nodes leave all other places alone. -/
theorem value?_foldl_spreadGap {id : NodeId} {property : String} (nodes : List VisibleNode) :
    ∀ styles : StyleMap, (id, property) ∉ nodes.flatMap (gapPlaces styles) →
      value? (nodes.foldl spreadGap styles) id property = value? styles id property := by
  induction nodes with
  | nil => exact fun _ _ => rfl
  | cons n rest ih =>
    intro styles h
    rw [List.flatMap_cons, List.mem_append, not_or] at h
    -- The first gap moves no position, so the places of the others are the same as before it.
    have hposition : ∀ id, value? (spreadGap styles n) id "position"
        = value? styles id "position" := fun id =>
      value?_spreadGap fun hmem => ne_position_of_mem_gapPlaces hmem rfl
    have hplaces : rest.flatMap (gapPlaces (spreadGap styles n))
        = rest.flatMap (gapPlaces styles) :=
      List.flatMap_congr fun m _ => gapPlaces_congr m hposition
    rw [List.foldl_cons, ih _ (hplaces ▸ h.2), value?_spreadGap h.1]

/-! ## Positions and ranks -/

/-- A containing block gets a position only in the place of none or of a static one. -/
theorem value?_containChildren {styles : StyleMap} {id : NodeId} {property value : String}
    (h : value? styles id property = some value)
    (hstatic : property = "position" → trimText value ≠ "static") (n : VisibleNode) :
    value? (containChildren styles n) id property = some value := by
  unfold containChildren
  split
  · next hcontain =>
    rw [value?_setValue, if_neg, h]
    rintro ⟨rfl, rfl⟩
    have hposition : position? styles n.id = some (trimText value) := by
      unfold position?
      rw [h]
      rfl
    have hmem := hcontain.2
    rw [hposition] at hmem
    simp only [List.mem_cons, reduceCtorEq, Option.some.injEq, List.not_mem_nil, or_false,
      false_or] at hmem
    exact hstatic rfl hmem
  · exact h

/-- Defaults change nothing where there is a value. -/
theorem value?_foldl_setDefault {id : NodeId} {property value : String}
    (ranked : List (NodeId × Nat)) : ∀ {styles : StyleMap}, value? styles id property = some value →
      value? (ranked.foldl (fun styles (child, rank) =>
        setDefault styles child "z-index" (integerText (rank + 1))) styles) id property
          = some value := by
  induction ranked with
  | nil => exact fun h => h
  | cons entry rest ih => exact fun h => ih (value?_setDefault h _ _ _)

/-- Ranks are set only where there is none. -/
theorem value?_rankChildren {styles : StyleMap} {id : NodeId} {property value : String}
    (h : value? styles id property = some value) (t : VisibleTree) (n : VisibleNode) :
    value? (rankChildren t styles n) id property = some value := by
  unfold rankChildren
  exact value?_foldl_setDefault _ h

/-! ## All corrections -/

/-- What a correction of one node keeps, the corrections of all nodes of a tree keep. -/
theorem overTree_induction {P : StyleMap → Prop} {correct : StyleMap → VisibleNode → StyleMap}
    (hcorrect : ∀ styles n, P styles → P (correct styles n)) {t : VisibleTree} {styles : StyleMap}
    (h : P styles) : P (overTree t correct styles) := by
  unfold overTree
  induction t.order.filterMap t.find? generalizing styles with
  | nil => exact h
  | cons n rest ih => exact ih (hcorrect styles n h)

/-- The corrections keep a value outside of the places of negative gaps, unless it is a static
position. -/
theorem value?_sanitize {t : VisibleTree} {styles : StyleMap} {id : NodeId}
    {property value : String} (h : value? styles id property = some value)
    (hplace : (id, property) ∉ (t.order.filterMap t.find?).flatMap (gapPlaces styles))
    (hstatic : property = "position" → trimText value ≠ "static") :
    value? (sanitize t styles) id property = some value := by
  -- The ranks come last, the gaps first.
  refine overTree_induction (P := fun styles => value? styles id property = some value)
    (fun _ n h => value?_rankChildren h t n) ?_
  refine overTree_induction (P := fun styles => value? styles id property = some value)
    (fun _ n h => value?_containChildren h hstatic n) ?_
  unfold compensateNegativeGap overTree
  rw [value?_foldl_spreadGap _ _ hplace, h]

end SceneCompiler.StyleMap
