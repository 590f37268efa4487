import Mathlib
import SceneCompiler.Proofs.Token.Rewriting
/-!
# The two tables of rewriting

The names of references and the bare names are tables of their own, filled from the same pairs of
raw and canonical names. Where several variables share a key the one with the lowest id decides, but
the keys differ: a reference is also found under the normalized form of a raw name, and a raw name
that is its own canonical name is no bare name.

* `find?_namePairs`: the first pair of a kind is that of the lowest id.
* `find?_bare`: what a bare name is replaced by.
* `pairwise_bare`: bare names are tried longest first.
* `tableOf_eq`: the table does not depend on how the variables are enumerated.
-/

namespace SceneCompiler

/-! ## The order of bare names -/

theorem tryBefore_iff {a b : String × String} :
    tryBefore a b = true ↔ b.1.utf8ByteSize < a.1.utf8ByteSize
      ∨ (b.1.utf8ByteSize = a.1.utf8ByteSize ∧ (compare a.1 b.1).isLE = true) := by
  unfold tryBefore
  rw [Bool.or_eq_true, Bool.and_eq_true, decide_eq_true_eq, beq_iff_eq]

theorem tryBefore_trans (a b c : String × String) (hab : tryBefore a b = true)
    (hbc : tryBefore b c = true) : tryBefore a c = true := by
  rw [tryBefore_iff] at *
  rcases hab with hab | ⟨hab, hle⟩
  · rcases hbc with hbc | ⟨hbc, -⟩ <;> exact Or.inl (by omega)
  · rcases hbc with hbc | ⟨hbc, hle'⟩
    · exact Or.inl (by omega)
    · exact Or.inr ⟨by omega, Std.TransCmp.isLE_trans hle hle'⟩

theorem tryBefore_total (a b : String × String) : (tryBefore a b || tryBefore b a) = true := by
  rw [Bool.or_eq_true, tryBefore_iff, tryBefore_iff]
  rcases lt_trichotomy a.1.utf8ByteSize b.1.utf8ByteSize with h | h | h
  · exact Or.inr (Or.inl h)
  · rcases le_total a.1 b.1 with hle | hle
    · exact Or.inl (Or.inr ⟨h.symm, Std.LawfulBCmp.isLE_iff_le.mpr hle⟩)
    · exact Or.inr (Or.inr ⟨h, Std.LawfulBCmp.isLE_iff_le.mpr hle⟩)
  · exact Or.inl (Or.inl h)

theorem tryBefore_of_eq {a b : String × String} (h : a.1 = b.1) : tryBefore a b = true :=
  tryBefore_iff.mpr (Or.inr ⟨h ▸ rfl, Std.LawfulBCmp.isLE_iff_le.mpr h.le⟩)

/-- Sorting leaves the first pair of each name the first one: pairs of one name keep their order. -/
theorem find?_mergeSort (pairs : List (String × String)) (name : String) :
    (pairs.mergeSort tryBefore).find? (fun p => p.1 = name) = pairs.find? fun p => p.1 = name := by
  rw [← List.head?_filter, ← List.head?_filter]
  have hequal : (pairs.filter fun p => p.1 = name).Pairwise fun a b => tryBefore a b = true := by
    refine List.pairwise_of_forall_mem_list fun a ha b hb => tryBefore_of_eq ?_
    rw [of_decide_eq_true (List.mem_filter.mp ha).2, of_decide_eq_true (List.mem_filter.mp hb).2]
  have hsub : (pairs.filter fun p => p.1 = name).Sublist (pairs.mergeSort tryBefore) :=
    List.sublist_mergeSort tryBefore_trans tryBefore_total hequal List.filter_sublist
  have hsub' := hsub.filter fun p => decide (p.1 = name)
  simp only [List.filter_filter, Bool.and_self] at hsub'
  rw [hsub'.eq_of_length ((List.mergeSort_perm pairs tryBefore).filter _).length_eq.symm]

/-! ## Repeats -/

/-- The first pair of each name stays. -/
theorem find?_dropRepeats (pairs : List (String × String)) (name : String) :
    (dropRepeats pairs).find? (fun p => p.1 = name) = pairs.find? fun p => p.1 = name := by
  fun_induction dropRepeats pairs with
  | case1 a b rest hrepeat ih =>
    rw [ih]
    by_cases ha : a.1 = name
    · simp [ha]
    · simp [ha, hrepeat ▸ ha]
  | case2 a b rest hrepeat ih => rw [List.find?_cons, List.find?_cons, ih]
  | case3 short _ => rfl

theorem dropRepeats_of_pairwise {pairs : List (String × String)}
    (h : pairs.Pairwise fun a b => a.1 ≠ b.1) : dropRepeats pairs = pairs := by
  fun_induction dropRepeats pairs with
  | case1 a b rest hrepeat ih =>
    exact absurd hrepeat ((List.pairwise_cons.mp h).1 b List.mem_cons_self)
  | case2 a b rest hrepeat ih => rw [ih (List.pairwise_cons.mp h).2]
  | case3 short _ => rfl

namespace TokenIndex

/-! ## The lowest id -/

/-- Of the variables whose raw and canonical names are of a kind this is the one with the lowest
id. -/
structure Lowest (x : TokenIndex) (P : String → String → Prop) (id : VariableId)
    (raw name : String) : Prop where
  rawName : x.rawNames[id]? = some raw
  canonicalName : x.canonicalNames[id]? = some name
  kind : P raw name
  lowest : ∀ (other : VariableId) (raw' name' : String), x.rawNames[other]? = some raw' →
    x.canonicalNames[other]? = some name' → P raw' name' → id.text ≤ other.text

/-- In a list in strict order the first element of a kind is the least one. -/
theorem find?_eq_some_iff_of_pairwise {α : Type} {before : α → α → Prop}
    (hasymm : ∀ a b, before a b → ¬ before b a) {l : List α} (hl : l.Pairwise before)
    {p : α → Bool} {a : α} :
    l.find? p = some a ↔ a ∈ l ∧ p a = true ∧ ∀ b ∈ l, p b = true → ¬ before b a := by
  rw [List.find?_eq_some_iff_append]
  constructor
  · rintro ⟨hp, earlier, later, rfl, hearlier⟩
    refine ⟨by simp, hp, fun b hb hpb hba => ?_⟩
    rw [List.pairwise_append, List.pairwise_cons] at hl
    rcases List.mem_append.mp hb with hb | hb
    · have hnot := hearlier b hb
      simp [hpb] at hnot
    · rcases List.mem_cons.mp hb with rfl | hb
      · exact hasymm _ _ hba hba
      · exact hasymm _ _ hba (hl.2.1.1 b hb)
  · rintro ⟨hmem, hp, hleast⟩
    obtain ⟨earlier, later, rfl⟩ := List.append_of_mem hmem
    refine ⟨hp, earlier, later, rfl, fun b hb => ?_⟩
    have hbefore : before b a := (List.pairwise_append.mp hl).2.2 b hb a List.mem_cons_self
    simpa using mt (hleast b (List.mem_append_left _ hb)) (not_not_intro hbefore)

/-- The first pair of a kind is that of the variable with the lowest id. -/
theorem find?_namePairs (x : TokenIndex) (P : String → String → Prop)
    [∀ raw name, Decidable (P raw name)] {raw name : String} :
    (x.namePairs.find? fun p => P p.1 p.2) = some (raw, name)
      ↔ ∃ id, x.Lowest P id raw name := by
  have hasymm : ∀ a b : VariableId × String, compare a.1 b.1 = .lt → ¬ compare b.1 a.1 = .lt :=
    fun a b hab => Std.OrientedCmp.not_lt_of_lt hab
  have hle {a b : VariableId} : ¬ compare b a = .lt ↔ a.text ≤ b.text := by
    rw [show compare b a = compare b.text a.text from rfl, compare_lt_iff_lt, not_lt]
  unfold namePairs
  rw [List.find?_filterMap, Option.bind_eq_some_iff]
  constructor
  · rintro ⟨⟨id, raw'⟩, hfind, hpair⟩
    obtain ⟨hmem, hkind, hleast⟩ :=
      (find?_eq_some_iff_of_pairwise hasymm Std.ExtTreeMap.ordered_keys_toList).mp hfind
    obtain ⟨name', hname, heq⟩ := Option.map_eq_some_iff.mp hpair
    obtain ⟨rfl, rfl⟩ := Prod.mk.inj heq
    refine ⟨id, Std.ExtTreeMap.mem_toList_iff_getElem?_eq_some.mp hmem, hname, ?_, ?_⟩
    · simpa [hname] using hkind
    · intro other raw' name'' hraw' hname' hkind'
      exact hle.mp (hleast (other, raw') (Std.ExtTreeMap.mem_toList_iff_getElem?_eq_some.mpr hraw')
        (by simp [hname', hkind']))
  · rintro ⟨id, hid⟩
    refine ⟨(id, raw), (find?_eq_some_iff_of_pairwise hasymm
      Std.ExtTreeMap.ordered_keys_toList).mpr ⟨?_, ?_, ?_⟩, ?_⟩
    · exact Std.ExtTreeMap.mem_toList_iff_getElem?_eq_some.mpr hid.rawName
    · simp [hid.canonicalName, hid.kind]
    · rintro ⟨other, raw'⟩ hmem hkind
      have hraw' := Std.ExtTreeMap.mem_toList_iff_getElem?_eq_some.mp hmem
      obtain ⟨pair, hpair, hkind'⟩ := (Option.any_eq_true _ _).mp hkind
      obtain ⟨name', hname', rfl⟩ := Option.map_eq_some_iff.mp hpair
      exact hle.mpr (hid.lowest other raw' name' hraw' hname' (of_decide_eq_true hkind'))
    · simp [hid.canonicalName]

/-! ## Bare names -/

/-- A bare name is replaced by the name of the lowest id among the variables that it does not name
already. -/
theorem find?_bare (x : TokenIndex) (raw : String) :
    x.rewriteTable.bare.find? (fun entry => entry.1 = raw.toList)
      = (x.namePairs.find? fun p => p.1 = raw ∧ p.1 ≠ p.2).map
        fun p => (p.1.toList, p.2.toList) := by
  have hkey : (fun entry : List Char × List Char => decide (entry.1 = raw.toList))
      ∘ (fun p : String × String => (p.1.toList, p.2.toList)) = fun p => decide (p.1 = raw) := by
    funext p
    simp only [Function.comp_apply, String.toList_inj]
  have hboth : (fun p : String × String =>
      decide (decide (p.1 ≠ p.2) = true ∧ decide (p.1 = raw) = true))
      = fun p => decide (p.1 = raw ∧ p.1 ≠ p.2) := by
    funext p
    simp only [decide_eq_true_eq, and_comm]
  show List.find? _ (List.map _ _) = _
  rw [List.find?_map, hkey, find?_dropRepeats, find?_mergeSort, List.find?_filter, hboth]

/-- Every raw name that some variable changes is a bare name. -/
theorem exists_mem_bare {x : TokenIndex} {id : VariableId} {raw name : String}
    (hraw : x.rawNames[id]? = some raw) (hname : x.canonicalNames[id]? = some name)
    (hne : raw ≠ name) : ∃ entry ∈ x.rewriteTable.bare, entry.1 = raw.toList := by
  have hpair : (raw, name) ∈ x.namePairs := mem_namePairs.mpr ⟨id, hraw, hname⟩
  have hfound : (x.rewriteTable.bare.find? fun entry => entry.1 = raw.toList).isSome := by
    rw [find?_bare, Option.isSome_map, List.find?_isSome]
    exact ⟨_, hpair, by simpa using hne⟩
  obtain ⟨entry, hentry⟩ := Option.isSome_iff_exists.mp hfound
  have hkey := List.find?_some hentry
  exact ⟨entry, List.mem_of_find?_eq_some hentry, of_decide_eq_true hkey⟩

/-- Bare names are tried longest first. -/
theorem pairwise_bare (x : TokenIndex) :
    x.rewriteTable.bare.Pairwise fun a b =>
      (String.ofList b.1).utf8ByteSize ≤ (String.ofList a.1).utf8ByteSize := by
  unfold rewriteTable
  rw [List.pairwise_map]
  have hsorted := List.pairwise_mergeSort tryBefore_trans tryBefore_total
    (x.namePairs.filter fun p => p.1 ≠ p.2)
  refine (hsorted.sublist (dropRepeats_sublist _)).imp fun {a b} hab => ?_
  rw [String.ofList_toList, String.ofList_toList]
  rcases tryBefore_iff.mp hab with h | h
  · exact h.le
  · exact h.1.le

/-- Names in the order of bare names, each of one variable, are the bare names as they are. -/
theorem bare_of_pairwise {x : TokenIndex} {pairs : List (String × String)}
    (hpairs : (x.namePairs.filter fun p => p.1 ≠ p.2) = pairs)
    (hsorted : pairs.Pairwise fun a b => tryBefore a b = true ∧ a.1 ≠ b.1) :
    x.rewriteTable.bare = pairs.map fun p => (p.1.toList, p.2.toList) := by
  rw [List.pairwise_and_iff] at hsorted
  show (dropRepeats ((x.namePairs.filter fun p => p.1 ≠ p.2).mergeSort tryBefore)).map _ = _
  rw [hpairs, List.mergeSort_of_pairwise hsorted.1, dropRepeats_of_pairwise hsorted.2]

theorem rewriteTable_of_pairwise {x : TokenIndex} {pairs : List (String × String)}
    (hpairs : (x.namePairs.filter fun p => p.1 ≠ p.2) = pairs)
    (hsorted : pairs.Pairwise fun a b => tryBefore a b = true ∧ a.1 ≠ b.1) :
    x.rewriteTable
      = ⟨x.rewriteTable.references, pairs.map fun p => (p.1.toList, p.2.toList)⟩ := by
  rw [← bare_of_pairwise hpairs hsorted]

/-! ## Enumeration -/

/-- The table made from the raw names in any order: they are sorted by their variables first. -/
def tableOf (x : TokenIndex) (entries : List (VariableId × String)) : RewriteTable :=
  let pairs := (entries.mergeSort fun a b => (compare a.1 b.1).isLE).filterMap
    fun p => x.canonicalNames[p.1]?.map fun name => (p.2, name)
  { references := pairs.foldl (fun table p =>
      (table.insertIfNew p.1 p.2).insertIfNew (normalizeName p.1) p.2) ∅
    bare := (dropRepeats ((pairs.filter fun p => p.1 ≠ p.2).mergeSort tryBefore)).map
      fun p => (p.1.toList, p.2.toList) }

/-- However the raw names are enumerated, the table is the same. -/
theorem tableOf_eq (x : TokenIndex) {entries : List (VariableId × String)}
    (h : entries.Perm x.rawNames.toList) : x.tableOf entries = x.rewriteTable := by
  have htrans (a b c : VariableId × String) (hab : (compare a.1 b.1).isLE = true)
      (hbc : (compare b.1 c.1).isLE = true) : (compare a.1 c.1).isLE = true :=
    Std.TransCmp.isLE_trans hab hbc
  have htotal (a b : VariableId × String) :
      ((compare a.1 b.1).isLE || (compare b.1 a.1).isLE) = true := by
    rw [show compare b.1 a.1 = (compare a.1 b.1).swap from Std.OrientedCmp.eq_swap]
    cases compare a.1 b.1 <;> rfl
  have hsorted : entries.mergeSort (fun a b => (compare a.1 b.1).isLE) = x.rawNames.toList := by
    refine ((List.mergeSort_perm _ _).trans h).eq_of_pairwise (fun a b ha hb hab hba => ?_)
      (List.pairwise_mergeSort htrans htotal entries)
      (Std.ExtTreeMap.ordered_keys_toList.imp fun hlt => by rw [hlt]; rfl)
    -- No variable is enumerated twice.
    have hid : a.1 = b.1 := Std.compare_eq_iff_eq.mp (Std.OrientedCmp.isLE_antisymm hab hba)
    have ha' := Std.ExtTreeMap.mem_toList_iff_getElem?_eq_some.mp
      (((List.mergeSort_perm _ _).trans h).mem_iff.mp ha)
    have hb' := Std.ExtTreeMap.mem_toList_iff_getElem?_eq_some.mp hb
    rw [hid, hb'] at ha'
    exact Prod.ext hid (Option.some.inj ha').symm
  unfold tableOf
  rw [hsorted]
  rfl

end TokenIndex

end SceneCompiler
