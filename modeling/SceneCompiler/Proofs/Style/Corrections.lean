import Mathlib
import SceneCompiler.Proofs.Style.Places
/-!
# Corrections made a second time

The corrections of the styles have nothing to do on styles that they have corrected. Negative gaps
and ranks put values in places that no correction looks at but the ranks themselves. Containing
blocks get positions; but a node that is in the flow stays in the flow, one that is absolutely
positioned stays so, and when the ranks look at the positions all of them have been given.

* `settled_sanitize`: corrected styles are settled, so that no correction finds anything to do.
* `compensateNegativeGap_of_spread`, `enforceRelativeParent_of_contained`,
  `assignStackingOrder_of_ranked`: a correction that finds nothing to do changes nothing.
* `corrections_idempotent`: each correction, and all of them in order.
-/

namespace SceneCompiler.StyleMap

variable {t : VisibleTree} {styles styles' : StyleMap} {n : VisibleNode} {id : NodeId}
  {property : String}

/-! ## Settled styles -/

/-- The places in which the negative gap of a node puts values, with the values. -/
def gapEntries (styles : StyleMap) (n : VisibleNode) : List ((NodeId × String) × String) :=
  match n.autoLayout with
  | none => []
  | some layout => (gapPlaces styles n).map fun place =>
    (place, if place.2 = "gap" then "0" else formatNumber layout.itemSpacing ++ "px")

/-- The value that comes last among some entries for a place. -/
def lastValue? (entries : List ((NodeId × String) × String)) (place : NodeId × String) :
    Option String :=
  (entries.reverse.find? fun e => e.1 = place).map (·.2)

/-- The places of the negative gaps have the values that the gaps put in; where two gaps share a
place, that of the later node. -/
def Spread (t : VisibleTree) (styles : StyleMap) : Prop :=
  ∀ place value, lastValue? ((t.order.filterMap t.find?).flatMap (gapEntries styles)) place
    = some value → value? styles place.1 place.2 = some value

/-- A node with an absolutely positioned child has a position that is not static. -/
def Contained (styles : StyleMap) (n : VisibleNode) : Prop :=
  (n.children.any fun c => position? styles c == some "absolute") = true →
    position? styles n.id ∉ [none, some "static"]

/-- The positioned children of a node that overlap another one. -/
def overlapping (t : VisibleTree) (styles : StyleMap) (n : VisibleNode) : List NodeId :=
  let positioned := n.children.filter (isPositioned styles)
  positioned.filter fun a => positioned.any fun b => a != b && overlap t a b

/-- The positioned children of a node that overlap another one have ranks. -/
def Ranked (t : VisibleTree) (styles : StyleMap) (n : VisibleNode) : Prop :=
  ∀ c ∈ overlapping t styles n, (value? styles c "z-index").isSome

/-- The styles have all that the corrections see to. -/
structure Settled (t : VisibleTree) (styles : StyleMap) : Prop where
  spread : Spread t styles
  contained : ∀ n ∈ t.order.filterMap t.find?, Contained styles n
  ranked : ∀ n ∈ t.order.filterMap t.find?, Ranked t styles n

/-! ## Equal styles -/

/-- Styles are equal that know the same nodes and have the same values. -/
theorem ext_value? (hids : ∀ id, id ∈ styles ↔ id ∈ styles')
    (hvalues : ∀ id property, value? styles id property = value? styles' id property) :
    styles = styles' := by
  refine Std.ExtTreeMap.ext_getElem? fun id => ?_
  have hid := hids id
  rw [Std.ExtTreeMap.mem_iff_isSome_getElem?, Std.ExtTreeMap.mem_iff_isSome_getElem?] at hid
  cases hd : styles[id]? with
  | none =>
    cases hd' : styles'[id]? with
    | none => rfl
    | some d' => simp [hd, hd'] at hid
  | some d =>
    cases hd' : styles'[id]? with
    | none => simp [hd, hd'] at hid
    | some d' =>
      refine congrArg some (Std.ExtTreeMap.ext_getElem? fun property => ?_)
      have hvalue := hvalues id property
      unfold value? at hvalue
      rwa [hd, hd', Option.bind_some, Option.bind_some] at hvalue

theorem mem_of_value? {value : String} (h : value? styles id property = some value) :
    id ∈ styles := by
  obtain ⟨d, hd, -⟩ := Option.bind_eq_some_iff.mp h
  exact mem_iff_exists_getElem?.mpr ⟨d, hd⟩

theorem mem_setValue (styles : StyleMap) (id id' : NodeId) (property value : String) :
    id' ∈ setValue styles id property value ↔ id = id' ∨ id' ∈ styles := by
  unfold setValue
  rw [Std.ExtTreeMap.mem_insert, Std.compare_eq_iff_eq]

/-- A default changes nothing where there is a value. -/
theorem setDefault_of_value? (h : (value? styles id property).isSome) (value : String) :
    setDefault styles id property value = styles := by
  obtain ⟨old, hold⟩ := Option.isSome_iff_exists.mp h
  obtain ⟨d, hd, hproperty⟩ := Option.bind_eq_some_iff.mp hold
  have hkept : d.insertIfNew property value = d := by
    refine Std.ExtTreeMap.ext_getElem? fun property' => ?_
    rw [Std.ExtTreeMap.getElem?_insertIfNew, if_neg]
    rintro ⟨heq, hnew⟩
    rw [Std.compare_eq_iff_eq] at heq
    subst heq
    exact hnew (mem_iff_exists_getElem?.mpr ⟨old, hproperty⟩)
  unfold setDefault
  rw [Std.ExtTreeMap.getD_eq_getD_getElem?, hd, Option.getD_some, hkept]
  refine Std.ExtTreeMap.ext_getElem? fun id' => ?_
  rw [Std.ExtTreeMap.getElem?_insert]
  split
  · next heq => rw [← Std.compare_eq_iff_eq.mp heq, hd]
  · rfl

/-! ## Passes over a tree -/

/-- What a correction makes true of its node, and leaves true of all others, is true of all nodes
after the pass. -/
theorem forall_overTree {correct : StyleMap → VisibleNode → StyleMap}
    {P : StyleMap → VisibleNode → Prop} (hself : ∀ styles n, P (correct styles n) n)
    (hkeep : ∀ styles n m, P styles m → P (correct styles n) m) (t : VisibleTree)
    (styles : StyleMap) : ∀ n ∈ t.order.filterMap t.find?, P (overTree t correct styles) n := by
  unfold overTree
  -- From the end of the list: the last node is corrected last.
  induction t.order.filterMap t.find? using List.reverseRecOn with
  | nil => simp
  | append_singleton nodes last ih =>
    intro n hn
    rw [List.foldl_append, List.foldl_cons, List.foldl_nil]
    rcases List.mem_append.mp hn with hearlier | hlast
    · exact hkeep _ last n (ih n hearlier)
    · rw [List.mem_singleton.mp hlast]
      exact hself _ last

theorem overTree_of_forall {correct : StyleMap → VisibleNode → StyleMap}
    (h : ∀ n ∈ t.order.filterMap t.find?, correct styles n = styles) :
    overTree t correct styles = styles := by
  unfold overTree
  generalize t.order.filterMap t.find? = nodes at h
  induction nodes with
  | nil => rfl
  | cons n rest ih =>
    rw [List.foldl_cons, h n List.mem_cons_self]
    exact ih fun m hm => h m (List.mem_cons_of_mem n hm)

/-- What is the same after a correction of any node is the same after the pass. -/
theorem overTree_eq {α : Type} (f : StyleMap → α) {correct : StyleMap → VisibleNode → StyleMap}
    (h : ∀ styles n, f (correct styles n) = f styles) (t : VisibleTree) (styles : StyleMap) :
    f (overTree t correct styles) = f styles :=
  overTree_induction (P := fun styles' => f styles' = f styles)
    (fun styles' n hsame => (h styles' n).trans hsame) rfl

/-! ## Negative gaps -/

/-- Puts a value in its place. -/
def setEntry (styles : StyleMap) (e : (NodeId × String) × String) : StyleMap :=
  setValue styles e.1.1 e.1.2 e.2

theorem value?_foldl_setEntry (entries : List ((NodeId × String) × String)) (styles : StyleMap)
    (place : NodeId × String) :
    value? (entries.foldl setEntry styles) place.1 place.2
      = (lastValue? entries place).or (value? styles place.1 place.2) := by
  unfold lastValue?
  -- From the end of the list: the last entry decides if it is for the place.
  induction entries using List.reverseRecOn with
  | nil => rfl
  | append_singleton init last ih =>
    rw [List.foldl_append, List.foldl_cons, List.foldl_nil, List.reverse_append,
      List.reverse_singleton, List.singleton_append, List.find?_cons, setEntry, value?_setValue]
    by_cases hplace : last.1 = place
    · simp [hplace]
    · have hne : ¬ (last.1.1 = place.1 ∧ last.1.2 = place.2) := mt Prod.ext_iff.mpr hplace
      rw [if_neg hne, ih]
      simp [hplace]

theorem mem_foldl_setEntry (entries : List ((NodeId × String) × String)) :
    ∀ (styles : StyleMap) (id : NodeId), id ∈ entries.foldl setEntry styles ↔
      id ∈ styles ∨ ∃ e ∈ entries, e.1.1 = id := by
  induction entries with
  | nil => simp
  | cons e rest ih =>
    intro styles id
    rw [List.foldl_cons, ih, setEntry, mem_setValue]
    simp only [List.mem_cons, exists_eq_or_imp]
    tauto

/-- Every place among some entries has a last value. -/
theorem exists_lastValue? {entries : List ((NodeId × String) × String)}
    {e : (NodeId × String) × String} (he : e ∈ entries) :
    ∃ value, lastValue? entries e.1 = some value := by
  unfold lastValue?
  rw [← Option.isSome_iff_exists, Option.isSome_map, List.find?_isSome]
  exact ⟨e, List.mem_reverse.mpr he, by simp⟩

/-- Entries whose places have the values that come last already change nothing. -/
theorem foldl_setEntry_of_held {entries : List ((NodeId × String) × String)}
    (h : ∀ place value, lastValue? entries place = some value →
      value? styles place.1 place.2 = some value) : entries.foldl setEntry styles = styles := by
  refine ext_value? (fun id => ?_) fun id property => ?_
  · rw [mem_foldl_setEntry, or_iff_left_iff_imp]
    rintro ⟨e, he, rfl⟩
    obtain ⟨value, hvalue⟩ := exists_lastValue? he
    exact mem_of_value? (h e.1 value hvalue)
  · refine (value?_foldl_setEntry entries styles (id, property)).trans ?_
    cases hlast : lastValue? entries (id, property) with
    | none => rfl
    | some value => exact (h _ value hlast).symm

/-- A negative gap puts its entries in. -/
theorem spreadGap_eq (styles : StyleMap) (n : VisibleNode) :
    spreadGap styles n = (gapEntries styles n).foldl setEntry styles := by
  unfold spreadGap gapEntries gapPlaces
  cases n.autoLayout with
  | none => rfl
  | some layout =>
    dsimp only
    split
    · rfl
    · have hmargin : leadingMargin layout.direction ≠ "gap" := by
        cases layout.direction <;> decide
      simp only [List.map_cons, List.map_map, List.foldl_cons, List.foldl_map, Function.comp_apply,
        setEntry, if_true, if_neg hmargin]

theorem mem_gapPlaces_of_mem_gapEntries {e : (NodeId × String) × String}
    (h : e ∈ gapEntries styles n) : e.1 ∈ gapPlaces styles n := by
  unfold gapEntries at h
  split at h
  · cases h
  · obtain ⟨place, hplace, rfl⟩ := List.mem_map.mp h
    exact hplace

/-- The entries of a gap depend on what is in the flow alone. -/
theorem gapEntries_congr (h : isInFlow styles' = isInFlow styles) (n : VisibleNode) :
    gapEntries styles' n = gapEntries styles n := by
  unfold gapEntries gapPlaces
  rw [h]

theorem position?_spreadGap (styles : StyleMap) (n : VisibleNode) :
    position? (spreadGap styles n) = position? styles := by
  funext id
  unfold position?
  rw [value?_spreadGap fun hmem => ne_position_of_mem_gapPlaces hmem rfl]

theorem isInFlow_congr (h : position? styles' = position? styles) :
    isInFlow styles' = isInFlow styles := by
  unfold isInFlow
  rw [h]

/-- All gaps put in the entries that they have before the first one is spread. -/
theorem compensateNegativeGap_eq (t : VisibleTree) (styles : StyleMap) :
    compensateNegativeGap t styles
      = ((t.order.filterMap t.find?).flatMap (gapEntries styles)).foldl setEntry styles := by
  unfold compensateNegativeGap overTree
  induction t.order.filterMap t.find? generalizing styles with
  | nil => rfl
  | cons n rest ih =>
    have hentries : rest.flatMap (gapEntries (spreadGap styles n))
        = rest.flatMap (gapEntries styles) :=
      List.flatMap_congr fun m _ =>
        gapEntries_congr (isInFlow_congr (position?_spreadGap styles n)) m
    rw [List.foldl_cons, ih, hentries, List.flatMap_cons, List.foldl_append, ← spreadGap_eq]

theorem position?_compensateNegativeGap (t : VisibleTree) (styles : StyleMap) :
    position? (compensateNegativeGap t styles) = position? styles :=
  overTree_eq position? position?_spreadGap t styles

theorem spread_compensateNegativeGap (t : VisibleTree) (styles : StyleMap) :
    Spread t (compensateNegativeGap t styles) := by
  intro place value hvalue
  have hflow := isInFlow_congr (position?_compensateNegativeGap t styles)
  rw [funext (gapEntries_congr hflow)] at hvalue
  rw [compensateNegativeGap_eq, value?_foldl_setEntry, hvalue]
  rfl

theorem compensateNegativeGap_of_spread (h : Spread t styles) :
    compensateNegativeGap t styles = styles := by
  rw [compensateNegativeGap_eq]
  exact foldl_setEntry_of_held h

/-- No gap puts in a position. -/
theorem ne_position_of_lastValue? {nodes : List VisibleNode} {place : NodeId × String}
    {value : String} (h : lastValue? (nodes.flatMap (gapEntries styles)) place = some value) :
    place.2 ≠ "position" := by
  unfold lastValue? at h
  obtain ⟨e, he, -⟩ := Option.map_eq_some_iff.mp h
  have hplace : e.1 = place := by simpa using List.find?_some he
  obtain ⟨n, -, hn⟩ := List.mem_flatMap.mp (List.mem_reverse.mp (List.mem_of_find?_eq_some he))
  rw [← hplace]
  exact ne_position_of_mem_gapPlaces (mem_gapPlaces_of_mem_gapEntries hn)

/-- What the gaps have put in stays in passes that change nothing about the flow, and no values but
positions. -/
theorem Spread.overTree {correct : StyleMap → VisibleNode → StyleMap}
    (hflow : ∀ styles n, isInFlow (correct styles n) = isInFlow styles)
    (hkeep : ∀ styles n id property value, property ≠ "position" →
      value? styles id property = some value →
        value? (correct styles n) id property = some value)
    (h : Spread t styles) : Spread t (overTree t correct styles) := by
  intro place value hvalue
  rw [funext (gapEntries_congr (overTree_eq isInFlow hflow t styles))] at hvalue
  have hposition := ne_position_of_lastValue? hvalue
  exact overTree_induction (P := fun styles => value? styles place.1 place.2 = some value)
    (fun styles n => hkeep styles n _ _ value hposition) (h place value hvalue)

/-! ## Containing blocks -/

/-- A containing block gets its position in the place of none or of a static one. -/
theorem position?_containChildren (styles : StyleMap) (n : VisibleNode) (id : NodeId) :
    position? (containChildren styles n) id = position? styles id
      ∨ position? styles id ∈ [none, some "static"]
        ∧ position? (containChildren styles n) id = some "relative" := by
  unfold containChildren
  split
  · next hcontain =>
    by_cases hid : n.id = id
    · subst hid
      refine Or.inr ⟨hcontain.2, ?_⟩
      unfold position?
      rw [value?_setValue, if_pos ⟨rfl, rfl⟩]
      decide
    · refine Or.inl ?_
      unfold position?
      rw [value?_setValue, if_neg fun h => hid h.1]
  · exact Or.inl rfl

/-- Containing blocks change nothing that does not tell `relative` from none and `static`. -/
theorem congr_position?_containChildren {α : Type} (f : Option String → α)
    (hf : ∀ p ∈ [none, some "static"], f (some "relative") = f p) (styles : StyleMap)
    (n : VisibleNode) (id : NodeId) :
    f (position? (containChildren styles n) id) = f (position? styles id) := by
  rcases position?_containChildren styles n id with hsame | ⟨hstatic, hrelative⟩
  · rw [hsame]
  · rw [hrelative, hf _ hstatic]

theorem isInFlow_containChildren (styles : StyleMap) (n : VisibleNode) :
    isInFlow (containChildren styles n) = isInFlow styles := by
  funext id
  exact congr_position?_containChildren (fun p => decide (p ∉ [some "absolute", some "fixed"]))
    (by decide) styles n id

theorem any_absolute_containChildren (styles : StyleMap) (n : VisibleNode) (ids : List NodeId) :
    (ids.any fun c => position? (containChildren styles n) c == some "absolute")
      = ids.any fun c => position? styles c == some "absolute" := by
  congr 1
  funext id
  exact congr_position?_containChildren (· == some "absolute") (by decide) styles n id

/-- Positions that are not static stay so. -/
theorem not_static_containChildren (h : position? styles id ∉ [none, some "static"])
    (n : VisibleNode) : position? (containChildren styles n) id ∉ [none, some "static"] := by
  rcases position?_containChildren styles n id with hsame | ⟨hstatic, -⟩
  · rwa [hsame]
  · exact absurd hstatic h

theorem contained_containChildren (styles : StyleMap) (n : VisibleNode) :
    Contained (containChildren styles n) n := by
  intro habsolute
  rw [any_absolute_containChildren] at habsolute
  by_cases hstatic : position? styles n.id ∈ [none, some "static"]
  · have hset : position? (containChildren styles n) n.id = some "relative" := by
      unfold containChildren position?
      rw [if_pos ⟨habsolute, hstatic⟩, value?_setValue, if_pos ⟨rfl, rfl⟩]
      decide
    rw [hset]
    decide
  · exact not_static_containChildren hstatic n

theorem Contained.containChildren (h : Contained styles n) (m : VisibleNode) :
    Contained (containChildren styles m) n := by
  intro habsolute
  rw [any_absolute_containChildren] at habsolute
  exact not_static_containChildren (h habsolute) m

theorem contained_enforceRelativeParent (t : VisibleTree) (styles : StyleMap) :
    ∀ n ∈ t.order.filterMap t.find?, Contained (enforceRelativeParent t styles) n :=
  forall_overTree contained_containChildren (fun _ m _ h => h.containChildren m) t styles

theorem enforceRelativeParent_of_contained
    (h : ∀ n ∈ t.order.filterMap t.find?, Contained styles n) :
    enforceRelativeParent t styles = styles := by
  refine overTree_of_forall fun n hn => ?_
  unfold containChildren
  exact if_neg fun hcontain => h n hn hcontain.1 hcontain.2

/-- Containing blocks take no value out of the places of gaps. -/
theorem Spread.enforceRelativeParent (h : Spread t styles) :
    Spread t (enforceRelativeParent t styles) :=
  h.overTree isInFlow_containChildren fun _ n _ _ _ hposition hkept =>
    value?_containChildren hkept (fun heq => absurd heq hposition) n

/-! ## Ranks -/

/-- The ranks are given to the positioned children that overlap another one. -/
theorem rankChildren_eq (t : VisibleTree) (styles : StyleMap) (n : VisibleNode) :
    rankChildren t styles n = (overlapping t styles n).zipIdx.foldl
      (fun styles p => setDefault styles p.1 "z-index" (integerText (p.2 + 1))) styles :=
  rfl

/-- Ranks are given in the places of overlapping children alone. -/
theorem value?_rankChildren_of_apart
    (h : ∀ c ∈ overlapping t styles n, (c, "z-index") ≠ (id, property)) :
    value? (rankChildren t styles n) id property = value? styles id property := by
  have hranked : ∀ p ∈ (overlapping t styles n).zipIdx, (p.1, "z-index") ≠ (id, property) :=
    fun p hp => h p.1 (List.fst_mem_of_mem_zipIdx hp)
  rw [rankChildren_eq]
  generalize (overlapping t styles n).zipIdx = ranked at hranked
  clear h
  induction ranked generalizing styles with
  | nil => rfl
  | cons p rest ih =>
    rw [List.foldl_cons, ih fun q hq => hranked q (List.mem_cons_of_mem p hq),
      value?_setDefault_eq, if_neg, Option.or_none]
    rintro ⟨rfl, rfl⟩
    exact hranked p List.mem_cons_self rfl

theorem position?_rankChildren (t : VisibleTree) (styles : StyleMap) (n : VisibleNode) :
    position? (rankChildren t styles n) = position? styles := by
  funext id
  unfold position?
  rw [value?_rankChildren_of_apart]
  intro c _ heq
  exact absurd (Prod.mk.inj heq).2 (by decide)

/-- Which children get ranks depends on the positions alone. -/
theorem overlapping_congr (h : position? styles' = position? styles) (n : VisibleNode) :
    overlapping t styles' n = overlapping t styles n := by
  unfold overlapping isPositioned
  rw [h]

/-- Whoever is given a default has a value afterwards. -/
theorem isSome_value?_setDefault (styles : StyleMap) (id : NodeId) (property value : String) :
    (value? (setDefault styles id property value) id property).isSome := by
  rw [value?_setDefault_eq, if_pos ⟨rfl, rfl⟩, Option.isSome_or, Option.isSome_some, Bool.or_true]

theorem ranked_rankChildren (t : VisibleTree) (styles : StyleMap) (n : VisibleNode) :
    Ranked t (rankChildren t styles n) n := by
  intro c hc
  rw [overlapping_congr (position?_rankChildren t styles n)] at hc
  obtain ⟨place, hplace⟩ := List.mem_iff_getElem?.mp hc
  have hranked : (c, place) ∈ (overlapping t styles n).zipIdx :=
    List.mk_mem_zipIdx_iff_getElem?.mpr hplace
  rw [rankChildren_eq]
  generalize (overlapping t styles n).zipIdx = ranked at hranked
  -- The child gets its rank at its entry, and keeps it at the entries after that.
  induction ranked using List.reverseRecOn with
  | nil => cases hranked
  | append_singleton earlier last ih =>
    rw [List.foldl_append, List.foldl_cons, List.foldl_nil]
    rcases List.mem_append.mp hranked with hearlier | hlast
    · obtain ⟨rank, hrank⟩ := Option.isSome_iff_exists.mp (ih hearlier)
      rw [value?_setDefault hrank]
      rfl
    · rw [← List.mem_singleton.mp hlast]
      exact isSome_value?_setDefault _ _ _ _

theorem Ranked.rankChildren (h : Ranked t styles n) (m : VisibleNode) :
    Ranked t (rankChildren t styles m) n := by
  intro c hc
  rw [overlapping_congr (position?_rankChildren t styles m)] at hc
  obtain ⟨rank, hrank⟩ := Option.isSome_iff_exists.mp (h c hc)
  rw [value?_rankChildren hrank]
  rfl

theorem ranked_assignStackingOrder (t : VisibleTree) (styles : StyleMap) :
    ∀ n ∈ t.order.filterMap t.find?, Ranked t (assignStackingOrder t styles) n :=
  forall_overTree (ranked_rankChildren t) (fun _ m _ h => h.rankChildren m) t styles

theorem assignStackingOrder_of_ranked (h : ∀ n ∈ t.order.filterMap t.find?, Ranked t styles n) :
    assignStackingOrder t styles = styles := by
  refine overTree_of_forall fun n hn => ?_
  have hranked : ∀ p ∈ (overlapping t styles n).zipIdx, (value? styles p.1 "z-index").isSome :=
    fun p hp => h n hn p.1 (List.fst_mem_of_mem_zipIdx hp)
  rw [rankChildren_eq]
  generalize (overlapping t styles n).zipIdx = ranked at hranked
  induction ranked with
  | nil => rfl
  | cons p rest ih =>
    rw [List.foldl_cons, setDefault_of_value? (hranked p List.mem_cons_self)]
    exact ih fun q hq => hranked q (List.mem_cons_of_mem p hq)

theorem position?_assignStackingOrder (t : VisibleTree) (styles : StyleMap) :
    position? (assignStackingOrder t styles) = position? styles :=
  overTree_eq position? (position?_rankChildren t) t styles

/-- Ranks take no value out of the places of gaps. -/
theorem Spread.assignStackingOrder (h : Spread t styles) :
    Spread t (assignStackingOrder t styles) :=
  h.overTree (fun styles n => isInFlow_congr (position?_rankChildren t styles n))
    fun _ n _ _ _ _ hkept => value?_rankChildren hkept t n

/-- Nor do they take a position from a containing block. -/
theorem Contained.assignStackingOrder (h : Contained styles n) (t : VisibleTree) :
    Contained (assignStackingOrder t styles) n := by
  unfold Contained at h ⊢
  rwa [position?_assignStackingOrder]

/-! ## All corrections -/

theorem settled_sanitize (t : VisibleTree) (styles : StyleMap) : Settled t (sanitize t styles) where
  spread := (spread_compensateNegativeGap t styles).enforceRelativeParent.assignStackingOrder
  contained n hn := (contained_enforceRelativeParent t _ n hn).assignStackingOrder t
  ranked := ranked_assignStackingOrder t _

/-- The corrections find nothing to do on settled styles. -/
theorem sanitize_of_settled (h : Settled t styles) : sanitize t styles = styles := by
  unfold sanitize
  rw [compensateNegativeGap_of_spread h.spread, enforceRelativeParent_of_contained h.contained,
    assignStackingOrder_of_ranked h.ranked]

/-- A correction that is made a second time changes nothing, nor do all of them in order; and
corrected styles have all that the corrections see to. -/
theorem corrections_idempotent (t : VisibleTree) (styles : StyleMap) :
    compensateNegativeGap t (compensateNegativeGap t styles) = compensateNegativeGap t styles
      ∧ enforceRelativeParent t (enforceRelativeParent t styles) = enforceRelativeParent t styles
      ∧ assignStackingOrder t (assignStackingOrder t styles) = assignStackingOrder t styles
      ∧ sanitize t (sanitize t styles) = sanitize t styles
      ∧ Settled t (sanitize t styles) := by
  have hsettled := settled_sanitize t styles
  refine ⟨?_, ?_, ?_, sanitize_of_settled hsettled, hsettled⟩
  · exact compensateNegativeGap_of_spread (spread_compensateNegativeGap t styles)
  · exact enforceRelativeParent_of_contained (contained_enforceRelativeParent t styles)
  · exact assignStackingOrder_of_ranked (ranked_assignStackingOrder t styles)

end SceneCompiler.StyleMap
