import Mathlib
import SceneCompiler.Proofs.Style.Corrections
import SceneCompiler.Proofs.Tree.Preorder
/-!
# Corrected styles

What the corrections of the styles have achieved when all of them are done. Every correction treats
the children of one node at a time, and no node is a child of two nodes of a tree; so the margins
and the rank of a node come from its one parent, and the nodes that are treated before and after it
put in nothing else.

* `value?_sanitize_of_ne`: the values that are neither positions nor ranks.
* `value?_assignStackingOrder`: a rank is the place among the overlapping siblings.
* `corrects_sanitize`: what the corrections make of the styles, and what they leave alone.
-/

namespace SceneCompiler

/-! ## Negative numbers -/

open Float.Model in
/-- Numbers that are compared the other way round are ordered the other way round. -/
theorem compare_unpacked_swap (a b : UnpackedFloat) :
    b.compare a = (a.compare b).map Ordering.swap := by
  have hfinite : ∀ (m m' : Nat) (e e' : Int),
      (compare e' e).then (compare m' m) = ((compare e e').then (compare m m')).swap := by
    intro m m' e e'
    rw [Ordering.swap_then, ← Std.OrientedCmp.eq_swap, ← Std.OrientedCmp.eq_swap]
  rcases a with (_ | _) | _ | (_ | _) | ⟨_ | _, m, e, _⟩ <;>
    rcases b with (_ | _) | _ | (_ | _) | ⟨_ | _, m', e', _⟩ <;>
    first
      | rfl
      | simp [UnpackedFloat.compare, hfinite m m' e e']

theorem not_le_of_single_lt {x y : Float32} (h : x < y) : ¬ y ≤ x := by
  have hlt : (x.toModel.unpack.compare y.toModel.unpack == some .lt) = true :=
    of_decide_eq_true (show Float32.lt x y = true from h)
  intro hle
  have hge : (y.toModel.unpack.compare x.toModel.unpack).any (·.isLE) = true :=
    of_decide_eq_true (show Float32.le y x = true from hle)
  rw [compare_unpacked_swap, beq_iff_eq.mp hlt] at hge
  cases hge

/-! ## Parents -/

/-- No node of a tree is a child twice. -/
structure VisibleTree.ChildrenApart (t : VisibleTree) : Prop where
  once : ∀ n ∈ t.order.filterMap t.find?, n.children.Nodup
  parent : ∀ n ∈ t.order.filterMap t.find?, ∀ m ∈ t.order.filterMap t.find?, ∀ c ∈ n.children,
    c ∈ m.children → m = n

namespace SceneGraph

variable {g : SceneGraph}

theorem childrenApart_visibleTree (hg : g.Reachable) (hapart : g.NamedApart) (roots : List NodeId)
    (policy : DepthPolicy) : (g.visibleTree roots policy).ChildrenApart := by
  have hforest := forest_of_namedApart hg hapart
  -- The children of a record are the visible children of its node, unless they were cut off.
  have hrecord : ∀ n ∈
        (g.visibleTree roots policy).order.filterMap (g.visibleTree roots policy).find?,
      (g.visibleTree roots policy).find? n.id = some n ∧ n.children.Nodup
        ∧ ∀ c ∈ n.children, c ∈ g.visibleChildIds n.id := by
    intro n hn
    obtain ⟨id, -, hfind⟩ := List.mem_filterMap.mp hn
    obtain ⟨v, hv, rfl, rfl⟩ := exists_visit_of_find? hfind
    obtain ⟨depth, index, n, rfl⟩ := exists_visit hv
    refine ⟨hfind, ?_, fun c hc => mem_children_visit hc⟩
    rw [children_visit, keptChildren]
    split
    · exact List.nodup_nil
    · exact hforest.children _
  constructor
  case once => exact fun n hn => (hrecord n hn).2.1
  case parent =>
    intro n hn m hm c hcn hcm
    obtain ⟨hfind, -, hchildren⟩ := hrecord n hn
    obtain ⟨hfind', -, hchildren'⟩ := hrecord m hm
    rw [hforest.parent m.id n.id c (hchildren' c hcm) (hchildren c hcn), hfind] at hfind'
    exact (Option.some.inj hfind').symm

end SceneGraph

namespace StyleMap

variable {t : VisibleTree} {styles : StyleMap} {n : VisibleNode} {id c : NodeId}
  {property : String}

/-! ## Values that a correction leaves alone -/

theorem value?_containChildren_of_ne (h : property ≠ "position") (styles : StyleMap)
    (n : VisibleNode) (id : NodeId) :
    value? (containChildren styles n) id property = value? styles id property := by
  unfold containChildren
  split
  · rw [value?_setValue, if_neg]
    exact fun heq => h heq.2.symm
  · rfl

/-- The values that are neither positions nor ranks: what the negative gaps put in, and otherwise
what was there. -/
theorem value?_sanitize_of_ne (hposition : property ≠ "position") (hrank : property ≠ "z-index")
    (t : VisibleTree) (styles : StyleMap) (id : NodeId) :
    value? (sanitize t styles) id property
      = (lastValue? ((t.order.filterMap t.find?).flatMap (gapEntries styles)) (id, property)).or
        (value? styles id property) := by
  calc value? (sanitize t styles) id property
      = value? (enforceRelativeParent t (compensateNegativeGap t styles)) id property :=
        overTree_eq (fun styles => value? styles id property)
          (fun _ _ => value?_rankChildren_of_apart fun _ _ heq => hrank (Prod.mk.inj heq).2.symm) t _
    _ = value? (compensateNegativeGap t styles) id property :=
        overTree_eq (fun styles => value? styles id property)
          (fun styles n => value?_containChildren_of_ne hposition styles n id) t _
    _ = _ := by rw [compensateNegativeGap_eq, value?_foldl_setEntry _ _ (id, property)]

/-- A place among no entries has no last value. -/
theorem lastValue?_eq_none {entries : List ((NodeId × String) × String)} {place : NodeId × String}
    (h : ∀ e ∈ entries, e.1 ≠ place) : lastValue? entries place = none := by
  unfold lastValue?
  rw [Option.map_eq_none_iff, List.find?_eq_none]
  exact fun e he heq => h e (List.mem_reverse.mp he) (of_decide_eq_true heq)

/-- Where all entries for a place have one value, that comes last. -/
theorem lastValue?_eq_some {entries : List ((NodeId × String) × String)} {place : NodeId × String}
    {value : String} (hmem : (place, value) ∈ entries)
    (hall : ∀ e ∈ entries, e.1 = place → e.2 = value) :
    lastValue? entries place = some value := by
  obtain ⟨last, hlast⟩ := exists_lastValue? hmem
  dsimp only at hlast
  rw [hlast]
  unfold lastValue? at hlast
  obtain ⟨e, he, rfl⟩ := Option.map_eq_some_iff.mp hlast
  have hplace : e.1 = place := by simpa using List.find?_some he
  exact congrArg some (hall e (List.mem_reverse.mp (List.mem_of_find?_eq_some he)) hplace)

/-! ## No declaration is removed -/

theorem isSome_value?_setValue (h : (value? styles id property).isSome) (id' : NodeId)
    (property' value : String) :
    (value? (setValue styles id' property' value) id property).isSome := by
  rw [value?_setValue]
  split
  · rfl
  · exact h

theorem isSome_value?_sanitize (t : VisibleTree) (h : (value? styles id property).isSome) :
    (value? (sanitize t styles) id property).isSome := by
  unfold sanitize assignStackingOrder enforceRelativeParent compensateNegativeGap
  apply overTree_induction (P := fun styles => (value? styles id property).isSome)
  · intro styles n hvalue
    obtain ⟨value, hvalue⟩ := Option.isSome_iff_exists.mp hvalue
    exact Option.isSome_of_eq_some (value?_rankChildren hvalue t n)
  apply overTree_induction (P := fun styles => (value? styles id property).isSome)
  · intro styles n hvalue
    unfold containChildren
    split
    · exact isSome_value?_setValue hvalue _ _ _
    · exact hvalue
  apply overTree_induction (P := fun styles => (value? styles id property).isSome)
  · intro styles n hvalue
    rw [spreadGap_eq, value?_foldl_setEntry _ _ (id, property), Option.isSome_or, hvalue,
      Bool.or_true]
  exact h

/-! ## Negative gaps -/

theorem leadingMargin_ne_gap (direction : LayoutDirection) : leadingMargin direction ≠ "gap" := by
  cases direction <;> decide

theorem leadingMargin_injective : Function.Injective leadingMargin := by
  intro a b
  cases a <;> cases b <;> decide

/-- What a node with a negative gap puts in. -/
theorem gapEntries_eq {layout : AutoLayout} (hlayout : n.autoLayout = some layout)
    (hnegative : ¬ 0 ≤ layout.itemSpacing)
    (hflow : 2 ≤ (n.children.filter (isInFlow styles)).length) :
    gapEntries styles n = ((n.id, "gap"), "0") :: (n.children.filter (isInFlow styles)).tail.map
      fun c => ((c, leadingMargin layout.direction), formatNumber layout.itemSpacing ++ "px") := by
  have hspread : ¬ (0 ≤ layout.itemSpacing ∨ (n.children.filter (isInFlow styles)).length < 2) := by
    rintro (hpositive | hfew)
    · exact hnegative hpositive
    · omega
  unfold gapEntries gapPlaces
  rw [hlayout]
  simp only [if_neg hspread, List.map_cons, List.map_map, if_true]
  congr 1
  exact List.map_congr_left fun c _ => by simp [leadingMargin_ne_gap]

/-- The entries of a negative gap: the gap of the node, and margins of children in flow. -/
theorem cases_of_mem_gapEntries {e : (NodeId × String) × String} (h : e ∈ gapEntries styles n) :
    e = ((n.id, "gap"), "0") ∨ ∃ layout, n.autoLayout = some layout
      ∧ ∃ c ∈ (n.children.filter (isInFlow styles)).tail,
        e = ((c, leadingMargin layout.direction), formatNumber layout.itemSpacing ++ "px") := by
  cases hlayout : n.autoLayout with
  | none => simp [gapEntries, hlayout] at h
  | some layout =>
    by_cases hspread : 0 ≤ layout.itemSpacing ∨ (n.children.filter (isInFlow styles)).length < 2
    · have hnone : gapEntries styles n = [] := by
        unfold gapEntries gapPlaces
        rw [hlayout]
        dsimp only
        rw [if_pos hspread, List.map_nil]
      rw [hnone] at h
      cases h
    · rw [not_or, not_lt] at hspread
      rw [gapEntries_eq hlayout hspread.1 hspread.2] at h
      rcases List.mem_cons.mp h with hgap | hmargin
      · exact Or.inl hgap
      · obtain ⟨c, hc, rfl⟩ := List.mem_map.mp hmargin
        exact Or.inr ⟨layout, rfl, c, hc, rfl⟩

/-- The margins of a child come from its one parent. -/
theorem entry_of_child (happart : t.ChildrenApart) (hn : n ∈ t.order.filterMap t.find?)
    (hc : c ∈ n.children) {layout : AutoLayout} (hlayout : n.autoLayout = some layout)
    {e : (NodeId × String) × String}
    (he : e ∈ (t.order.filterMap t.find?).flatMap (gapEntries styles))
    {direction : LayoutDirection} (hplace : e.1 = (c, leadingMargin direction)) :
    direction = layout.direction ∧ c ∈ (n.children.filter (isInFlow styles)).tail
      ∧ e.2 = formatNumber layout.itemSpacing ++ "px" := by
  obtain ⟨m, hm, he⟩ := List.mem_flatMap.mp he
  rcases cases_of_mem_gapEntries he with rfl | ⟨layout', hlayout', c', hc', rfl⟩
  · exact absurd (Prod.mk.inj hplace).2.symm (leadingMargin_ne_gap direction)
  · obtain ⟨rfl, hmargin⟩ := Prod.mk.inj hplace
    have hchild : c' ∈ m.children := List.mem_of_mem_filter (List.mem_of_mem_tail hc')
    obtain rfl := happart.parent n hn m hm c' hc hchild
    obtain rfl := Option.some.inj (hlayout.symm.trans hlayout')
    exact ⟨leadingMargin_injective hmargin.symm, hc', rfl⟩

/-- What becomes of a container with a negative gap: the gap is gone, the children in flow after the
first one have it as their margin along the layout, and all other margins of children are as they
were. -/
structure GapSpread (before after : StyleMap) (n : VisibleNode) (layout : AutoLayout) : Prop where
  gap : value? after n.id "gap" = some "0"
  moved : ∀ c ∈ (n.children.filter (isInFlow before)).tail,
    value? after c (leadingMargin layout.direction)
      = some (formatNumber layout.itemSpacing ++ "px")
  kept : ∀ c ∈ n.children, ∀ direction, direction ≠ layout.direction
      ∨ c ∉ (n.children.filter (isInFlow before)).tail →
    value? after c (leadingMargin direction) = value? before c (leadingMargin direction)

theorem gapSpread_sanitize (happart : t.ChildrenApart) (styles : StyleMap)
    (hn : n ∈ t.order.filterMap t.find?) {layout : AutoLayout}
    (hlayout : n.autoLayout = some layout) (hnegative : layout.itemSpacing < 0)
    (hflow : 2 ≤ (n.children.filter (isInFlow styles)).length) :
    GapSpread styles (sanitize t styles) n layout := by
  have hentries := gapEntries_eq hlayout (not_le_of_single_lt hnegative) hflow
  have hput : ∀ e ∈ gapEntries styles n,
      e ∈ (t.order.filterMap t.find?).flatMap (gapEntries styles) :=
    fun e he => List.mem_flatMap.mpr ⟨n, hn, he⟩
  have hmargin : ∀ direction, leadingMargin direction ≠ "position"
      ∧ leadingMargin direction ≠ "z-index" := by
    intro direction
    cases direction <;> decide
  constructor
  case gap =>
    have hmem : ((n.id, "gap"), "0") ∈ gapEntries styles n := by
      rw [hentries]
      exact List.mem_cons_self
    rw [value?_sanitize_of_ne (by decide) (by decide), lastValue?_eq_some (hput _ hmem),
      Option.some_or]
    -- Only gaps are put in as gaps, and all of them are zero.
    intro e he hplace
    obtain ⟨m, -, he⟩ := List.mem_flatMap.mp he
    rcases cases_of_mem_gapEntries he with rfl | ⟨layout', -, c, -, rfl⟩
    · rfl
    · exact absurd (Prod.mk.inj hplace).2 (leadingMargin_ne_gap layout'.direction)
  case moved =>
    intro c hc
    have hchild : c ∈ n.children := List.mem_of_mem_filter (List.mem_of_mem_tail hc)
    rw [value?_sanitize_of_ne (hmargin _).1 (hmargin _).2, lastValue?_eq_some, Option.some_or]
    · apply hput
      rw [hentries]
      exact List.mem_cons_of_mem _ (List.mem_map_of_mem hc)
    · exact fun e he hplace => (entry_of_child happart hn hchild hlayout he hplace).2.2
  case kept =>
    intro c hc direction hother
    rw [value?_sanitize_of_ne (hmargin _).1 (hmargin _).2, lastValue?_eq_none, Option.none_or]
    intro e he hplace
    obtain ⟨hdirection, htail, -⟩ := entry_of_child happart hn hc hlayout he hplace
    rcases hother with hne | hnot
    · exact hne hdirection
    · exact hnot htail

/-! ## Ranks -/

theorem nodup_overlapping (h : n.children.Nodup) (t : VisibleTree) (styles : StyleMap) :
    (overlapping t styles n).Nodup :=
  (h.filter _).filter _

theorem mem_children_of_mem_overlapping (h : c ∈ overlapping t styles n) : c ∈ n.children :=
  List.mem_of_mem_filter (List.mem_of_mem_filter h)

/-- Of some children in order each gets its rank, unless it has one. -/
theorem value?_foldl_setDefault_of_mem {ranked : List (NodeId × Nat)} {rank : Nat}
    (hnodup : (ranked.map Prod.fst).Nodup) (hmem : (c, rank) ∈ ranked)
    (hnone : value? styles c "z-index" = none) :
    value? (ranked.foldl (fun styles (child, rank) =>
      setDefault styles child "z-index" (integerText (rank + 1))) styles) c "z-index"
        = some (integerText (rank + 1)) := by
  induction ranked generalizing styles with
  | nil => cases hmem
  | cons p rest ih =>
    rw [List.map_cons, List.nodup_cons] at hnodup
    rw [List.foldl_cons]
    rcases List.mem_cons.mp hmem with rfl | hrest
    · apply value?_foldl_setDefault
      rw [value?_setDefault_eq, hnone, if_pos ⟨rfl, rfl⟩, Option.none_or]
    · apply ih hnodup.2 hrest
      have hne : p.1 ≠ c := fun heq => hnodup.1 (List.mem_map.mpr ⟨(c, rank), hrest, heq.symm⟩)
      rw [value?_setDefault_eq, hnone, if_neg fun heq => hne heq.1, Option.none_or]

/-- The rank that a node gives to a child: its place among the overlapping children. -/
theorem value?_rankChildren_of_getElem? (honce : n.children.Nodup) {place : Nat}
    (hplace : (overlapping t styles n)[place]? = some c)
    (hnone : value? styles c "z-index" = none) :
    value? (rankChildren t styles n) c "z-index" = some (integerText (place + 1)) := by
  rw [rankChildren_eq]
  apply value?_foldl_setDefault_of_mem _ (List.mk_mem_zipIdx_iff_getElem?.mpr hplace) hnone
  rw [List.zipIdx_map_fst]
  exact nodup_overlapping honce t styles

/-- A child keeps the rank that its one parent gives it; the nodes that are treated before and after
the parent rank other children. -/
theorem value?_assignStackingOrder (happart : t.ChildrenApart)
    (hn : n ∈ t.order.filterMap t.find?) {place : Nat}
    (hplace : (overlapping t styles n)[place]? = some c)
    (hnone : value? styles c "z-index" = none) :
    value? (assignStackingOrder t styles) c "z-index" = some (integerText (place + 1)) := by
  have hchild := mem_children_of_mem_overlapping (List.mem_of_getElem? hplace)
  have hparent : ∀ m ∈ t.order.filterMap t.find?, c ∈ m.children → m = n :=
    fun m hm => happart.parent n hn m hm c hchild
  have honce := happart.once n hn
  unfold assignStackingOrder overTree
  generalize t.order.filterMap t.find? = nodes at hn hparent
  induction nodes generalizing styles with
  | nil => cases hn
  | cons m rest ih =>
    rw [List.foldl_cons]
    by_cases hm : m = n
    · subst hm
      have hranked := value?_rankChildren_of_getElem? honce hplace hnone
      -- From here on the rank is there.
      generalize rankChildren t styles m = styles' at hranked
      clear ih hparent hn
      induction rest generalizing styles' with
      | nil => exact hranked
      | cons _ rest ih => exact ih _ (value?_rankChildren hranked t _)
    · have hapart : ∀ c' ∈ overlapping t styles m, (c', "z-index") ≠ (c, "z-index") := by
        rintro c' hc' heq
        obtain rfl := (Prod.mk.inj heq).1
        exact hm (hparent m List.mem_cons_self (mem_children_of_mem_overlapping hc'))
      apply ih
      · rwa [overlapping_congr (position?_rankChildren t styles m)]
      · rwa [value?_rankChildren_of_apart hapart]
      · exact (List.mem_cons.mp hn).resolve_left fun heq => hm heq.symm
      · exact fun m' hm' => hparent m' (List.mem_cons_of_mem m hm')

/-- No correction before the ranks gives one. -/
theorem value?_zIndex_enforceRelativeParent (t : VisibleTree) (styles : StyleMap) (id : NodeId) :
    value? (enforceRelativeParent t (compensateNegativeGap t styles)) id "z-index"
      = value? styles id "z-index" := by
  have hgap : ∀ styles n, value? (spreadGap styles n) id "z-index" = value? styles id "z-index" :=
    fun styles n => value?_spreadGap fun hplace =>
      absurd (property_of_mem_gapPlaces hplace) (by decide)
  calc value? (enforceRelativeParent t (compensateNegativeGap t styles)) id "z-index"
      = value? (compensateNegativeGap t styles) id "z-index" :=
        overTree_eq (fun styles => value? styles id "z-index")
          (fun styles n => value?_containChildren_of_ne (by decide) styles n id) t _
    _ = value? styles id "z-index" :=
        overTree_eq (fun styles => value? styles id "z-index") hgap t styles

/-- A rank is the place among the siblings that overlap in the end. -/
theorem value?_zIndex_sanitize (happart : t.ChildrenApart) (hn : n ∈ t.order.filterMap t.find?)
    {place : Nat} (hplace : (overlapping t (sanitize t styles) n)[place]? = some c)
    (hnone : value? styles c "z-index" = none) :
    value? (sanitize t styles) c "z-index" = some (integerText (place + 1)) := by
  unfold sanitize at hplace ⊢
  rw [overlapping_congr (position?_assignStackingOrder t _)] at hplace
  apply value?_assignStackingOrder happart hn hplace
  rw [value?_zIndex_enforceRelativeParent, hnone]

/-! ## All corrections -/

/-- What the corrections make of styles, and what they leave alone. Positions are meant without the
white space around them. -/
structure Corrects (t : VisibleTree) (before after : StyleMap) : Prop where
  contained : ∀ n ∈ t.order.filterMap t.find?,
    (∃ c ∈ n.children, position? after c = some "absolute") →
      position? after n.id ≠ none ∧ position? after n.id ≠ some "static"
  ranked : ∀ n ∈ t.order.filterMap t.find?,
    ((overlapping t after n).filter fun c => value? before c "z-index" = none).Pairwise fun a b =>
      ∃ i j : Nat, i < j ∧ value? after a "z-index" = some (integerText i)
        ∧ value? after b "z-index" = some (integerText j)
  spread : ∀ n ∈ t.order.filterMap t.find?, ∀ layout, n.autoLayout = some layout →
    layout.itemSpacing < 0 → 2 ≤ (n.children.filter (isInFlow before)).length →
      GapSpread before after n layout
  declared : ∀ id property, (value? before id property).isSome →
    (value? after id property).isSome
  rank : ∀ id value, value? before id "z-index" = some value →
    value? after id "z-index" = some value
  position : ∀ id value, value? before id "position" = some value → trimText value ≠ "static" →
    value? after id "position" = some value
  others : ∀ id property,
    property ∉ ["gap", "margin-left", "margin-top", "position", "z-index"] →
      value? after id property = value? before id property

/-- The corrections do so on trees in which no node is a child twice. -/
theorem corrects_of_childrenApart (happart : t.ChildrenApart) (styles : StyleMap) :
    Corrects t styles (sanitize t styles) := by
  constructor
  case contained =>
    rintro n hn ⟨c, hc, habsolute⟩
    have hcontained := (settled_sanitize t styles).contained n hn
    have hstatic := hcontained (List.any_eq_true.mpr ⟨c, hc, by simp [habsolute]⟩)
    rwa [List.mem_cons, List.mem_singleton, not_or] at hstatic
  case ranked =>
    intro n hn
    rw [List.pairwise_filter, List.pairwise_iff_getElem]
    intro i j hi hj hlt ha hb
    have hrank : ∀ k (hk : k < (overlapping t (sanitize t styles) n).length),
        value? styles (overlapping t (sanitize t styles) n)[k] "z-index" = none →
          value? (sanitize t styles) (overlapping t (sanitize t styles) n)[k] "z-index"
            = some (integerText (k + 1)) :=
      fun k hk => value?_zIndex_sanitize happart hn (List.getElem?_eq_getElem hk)
    exact ⟨i + 1, j + 1, by omega, hrank i hi (of_decide_eq_true ha),
      hrank j hj (of_decide_eq_true hb)⟩
  case spread =>
    exact fun n hn layout hlayout hnegative hflow =>
      gapSpread_sanitize happart styles hn hlayout hnegative hflow
  case declared => exact fun _ _ hvalue => isSome_value?_sanitize t hvalue
  case rank =>
    intro id value hvalue
    apply value?_sanitize hvalue
    · intro hplace
      obtain ⟨n, -, hplace⟩ := List.mem_flatMap.mp hplace
      exact absurd (property_of_mem_gapPlaces hplace) (by decide)
    · exact fun heq => absurd heq (by decide)
  case position =>
    intro id value hvalue hstatic
    apply value?_sanitize hvalue
    · intro hplace
      obtain ⟨n, -, hplace⟩ := List.mem_flatMap.mp hplace
      exact ne_position_of_mem_gapPlaces hplace rfl
    · exact fun _ => hstatic
  case others =>
    intro id property hother
    simp only [List.mem_cons, List.not_mem_nil, or_false, not_or] at hother
    obtain ⟨hgap, hleft, htop, hposition, hrank⟩ := hother
    rw [value?_sanitize_of_ne hposition hrank, lastValue?_eq_none, Option.none_or]
    intro e he hplace
    obtain ⟨n, -, he⟩ := List.mem_flatMap.mp he
    have hproperty := property_of_mem_gapPlaces
      (hplace ▸ mem_gapPlaces_of_mem_gapEntries he : (id, property) ∈ gapPlaces styles n)
    simp [hgap, hleft, htop] at hproperty

end StyleMap

namespace SceneGraph

/-- The corrections do so on every tree of a scene that has its names apart. -/
theorem corrects_sanitize {g : SceneGraph} (hg : g.Reachable) (hapart : g.NamedApart)
    (roots : List NodeId) (policy : DepthPolicy) (styles : StyleMap) :
    StyleMap.Corrects (g.visibleTree roots policy) styles
      (StyleMap.sanitize (g.visibleTree roots policy) styles) :=
  StyleMap.corrects_of_childrenApart (childrenApart_visibleTree hg hapart roots policy) styles

/-! ### A row whose cells overlap -/

/-- A row with a negative gap and three cells. -/
def overlappingRow : SceneGraph :=
  (((({} : SceneGraph).addRoot
    { id := ⟨"row"⟩, type := .frame,
      layout := some { direction := .horizontal, itemSpacing := -8 } }).addNode 0
    { id := ⟨"a"⟩, type := .rectangle, bounds := ⟨0, 0, 20, 20⟩ }).addNode 0
      { id := ⟨"b"⟩, type := .rectangle, bounds := ⟨12, 0, 20, 20⟩ }).addNode 0
        { id := ⟨"c"⟩, type := .rectangle, bounds := ⟨15, 0, 20, 20⟩ }

theorem reachable_overlappingRow : overlappingRow.Reachable := by
  refine (((Reachable.empty.addRoot _).addNode ?_ _).addNode ?_ _).addNode ?_ _
  all_goals
    rw [Std.ExtTreeMap.mem_iff_contains]
    decide +kernel

/-- The second cell is moved over the first one, and the third is out of the flow: the row becomes
its containing block, and it is drawn above the second cell. -/
theorem corrects_overlappingRow :
    let t := overlappingRow.visibleTree [⟨"row"⟩] {}
    let before : StyleMap := StyleMap.setValue (StyleMap.setValue (StyleMap.setValue ∅
      ⟨"b"⟩ "position" "relative") ⟨"c"⟩ "position" "absolute") ⟨"row"⟩ "gap" "-8px"
    StyleMap.Corrects t before (StyleMap.sanitize t before)
      ∧ (StyleMap.sanitize t before).toList.map (fun d => (d.1.text, d.2.toList))
        = [("b", [("margin-left", "-8px"), ("position", "relative"), ("z-index", "1")]),
          ("c", [("position", "absolute"), ("z-index", "2")]),
          ("row", [("gap", "0"), ("position", "relative")])] := by
  have hapart : overlappingRow.NamedApart := namedApart_of_nodup (by decide +kernel)
  exact ⟨corrects_sanitize reachable_overlappingRow hapart _ _ _, by decide +kernel⟩

end SceneGraph

end SceneCompiler
