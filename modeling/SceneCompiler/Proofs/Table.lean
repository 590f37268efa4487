import Mathlib
/-!
# Tables filled entry by entry

Several tables of a compilation are filled by one pass over a list: the records of a tree, the
values of tokens, the answers about tokens. What such a table holds for a key is what the last entry
of that key put in.

* `getElem?_foldl_insert`: a pass whose entries carry their own values.
* `getElem?_foldl_insert_of_nodup`: a pass whose entries have different keys.
* `getElem?_foldl_insert_of_key`: a pass where the key alone determines the value.
* `foldl_insert_toList`: a table is filled by its own entries.
* `head?_toList_eq_some_iff`: the first entry of a table.
-/

namespace SceneCompiler

variable {κ α β : Type} [Ord κ] [Std.TransOrd κ] [Std.LawfulEqOrd κ] [DecidableEq κ]

omit [Std.LawfulEqOrd κ] [DecidableEq κ] in
theorem mem_iff_exists_getElem? {table : Std.ExtTreeMap κ β} {k : κ} :
    k ∈ table ↔ ∃ value, table[k]? = some value := by
  rw [Std.ExtTreeMap.mem_iff_isSome_getElem?, Option.isSome_iff_exists]

omit [DecidableEq κ] in
/-- The first entry of a table is that of its least key. -/
theorem head?_toList_eq_some_iff {table : Std.ExtTreeMap κ β} {k : κ} {b : β} :
    table.toList.head? = some (k, b) ↔ table[k]? = some b ∧ ∀ k' ∈ table, (compare k k').isLE := by
  have hordered := Std.ExtTreeMap.ordered_keys_toList (t := table)
  simp only [mem_iff_exists_getElem?, ← Std.ExtTreeMap.mem_toList_iff_getElem?_eq_some]
  cases hlist : table.toList with
  | nil => simp
  | cons first rest =>
    rw [hlist] at hordered
    obtain ⟨hbefore, -⟩ := List.pairwise_cons.mp hordered
    rw [List.head?_cons, Option.some.injEq]
    constructor
    · rintro rfl
      refine ⟨List.mem_cons_self, ?_⟩
      rintro k' ⟨b', hmem⟩
      rcases List.mem_cons.mp hmem with heq | hrest
      · rw [(Prod.mk.inj heq).1, Std.compare_eq_iff_eq.mpr rfl]
        rfl
      · rw [hbefore _ hrest]
        rfl
    · rintro ⟨hmem, hleast⟩
      rcases List.mem_cons.mp hmem with heq | hrest
      · exact heq.symm
      · -- The first entry would come before the one of the least key.
        have hle := hleast first.1 ⟨first.2, List.mem_cons_self⟩
        rw [Std.OrientedCmp.gt_iff_lt.mpr (hbefore _ hrest)] at hle
        cases hle

/-- A table filled by one pass holds the value of the last entry of each key, and what it held
before for the others. -/
theorem getElem?_foldl_insert (key : α → κ) (value : α → β) (entries : List α)
    (start : Std.ExtTreeMap κ β) (k : κ) :
    (entries.foldl (fun table a => table.insert (key a) (value a)) start)[k]?
      = ((entries.reverse.find? fun a => key a = k).map value).or start[k]? := by
  -- From the end of the list: the last entry decides if it has the key.
  induction entries using List.reverseRecOn with
  | nil => rfl
  | append_singleton init last ih =>
    rw [List.foldl_append, List.foldl_cons, List.foldl_nil, List.reverse_append,
      List.reverse_singleton, List.singleton_append, List.find?_cons,
      Std.ExtTreeMap.getElem?_insert]
    by_cases hkey : key last = k
    · simp [hkey]
    · rw [if_neg (by rwa [Std.compare_eq_iff_eq]), ih]
      simp [hkey]

/-- Where each key has one entry the table holds what the entries say. -/
theorem getElem?_foldl_insert_of_nodup {key : α → κ} {value : α → β} {entries : List α}
    (hnodup : (entries.map key).Nodup) {k : κ} {b : β} :
    (entries.foldl (fun table a => table.insert (key a) (value a))
        (∅ : Std.ExtTreeMap κ β))[k]? = some b
      ↔ ∃ a ∈ entries, key a = k ∧ value a = b := by
  rw [getElem?_foldl_insert key value, Std.ExtTreeMap.getElem?_empty, Option.or_none]
  constructor
  · intro h
    obtain ⟨a, ha, rfl⟩ := Option.map_eq_some_iff.mp h
    have hkey : key a = k := by simpa using List.find?_some ha
    exact ⟨a, List.mem_reverse.mp (List.mem_of_find?_eq_some ha), hkey, rfl⟩
  · rintro ⟨a, ha, rfl, rfl⟩
    cases hfind : entries.reverse.find? fun found => key found = key a with
    | none =>
      rw [List.find?_eq_none] at hfind
      simpa using hfind a (List.mem_reverse.mpr ha)
    | some found =>
      have hkey : key found = key a := by simpa using List.find?_some hfind
      have hfound := List.mem_reverse.mp (List.mem_of_find?_eq_some hfind)
      rw [List.inj_on_of_nodup_map hnodup hfound ha hkey]
      rfl

/-- Where the value belongs to the key the order of the entries makes no difference. -/
theorem getElem?_foldl_insert_of_key (value : κ → β) (keys : List κ) (start : Std.ExtTreeMap κ β)
    (k : κ) :
    (keys.foldl (fun table key => table.insert key (value key)) start)[k]?
      = if k ∈ keys then some (value k) else start[k]? := by
  refine (getElem?_foldl_insert (fun key => key) value keys start k).trans ?_
  by_cases hk : k ∈ keys
  · have hfound : keys.reverse.find? (fun key => key = k) = some k := by
      cases hfind : keys.reverse.find? (fun key => key = k) with
      | none =>
        rw [List.find?_eq_none] at hfind
        simpa using hfind k (by simpa using hk)
      | some key =>
        have hkey : key = k := by simpa using List.find?_some hfind
        rw [hkey]
    rw [hfound, if_pos hk]
    rfl
  · have hnone : keys.reverse.find? (fun key => key = k) = none := by
      rw [List.find?_eq_none]
      intro key hmem
      have hne : key ≠ k := by
        intro heq
        exact hk (heq ▸ List.mem_reverse.mp hmem)
      simpa using hne
    rw [hnone, if_neg hk]
    rfl

theorem foldl_insert_toList (table : Std.ExtTreeMap κ β) :
    table.toList.foldl (fun t p => t.insert p.1 p.2) ∅ = table := by
  refine Std.ExtTreeMap.ext_getElem? fun k => ?_
  rw [getElem?_foldl_insert (fun p : κ × β => p.1) (fun p => p.2)]
  cases hfind : table.toList.reverse.find? fun p => p.1 = k with
  | none =>
    rw [List.find?_eq_none] at hfind
    cases hk : table[k]? with
    | none => simp
    | some value =>
      have hmem : (k, value) ∈ table.toList := Std.ExtTreeMap.mem_toList_iff_getElem?_eq_some.mpr hk
      simpa using hfind (k, value) (List.mem_reverse.mpr hmem)
  | some p =>
    have hkey : p.1 = k := by simpa using List.find?_some hfind
    have hmem : p ∈ table.toList := List.mem_reverse.mp (List.mem_of_find?_eq_some hfind)
    subst hkey
    exact (Std.ExtTreeMap.mem_toList_iff_getElem?_eq_some.mp hmem).symm

end SceneCompiler
