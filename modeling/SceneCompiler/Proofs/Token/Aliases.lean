import Mathlib
import SceneCompiler.Proofs.Table
import SceneCompiler.Token.Value
/-!
# Chains of aliases

A variable stands for the literal at the end of its aliases. Which literal that is can be said
without the walk that finds it: the first variable is read in the mode that is asked for, all others
in no mode, and the literal counts if at most `aliasLimit` aliases lead to it.

* `valueIn?_eq_some_iff`: which of its values a variable has in a mode.
* `follow_along`: the walk along a path.
* `follow_eq_unresolved`, `follow_eq_unresolved_of_long`: walks that find no literal.
* `exists_aliasPath_of_cycle`: aliases that lead in a circle lead on without end.
* `follow_congr`: the walk looks at no variables but those on its path.
* `LiteralPath.onPath_iff`: which variables those are.
* `resolve_along_aliases`: what a variable stands for.
-/

namespace SceneCompiler

/-! ## The value of a variable -/

/-- The value of a variable in a mode: that of the mode itself, else that of the default mode of the
variable, else that of its first mode. -/
inductive Variable.HasValue (v : Variable) (mode : Option String) : VariableValue → Prop where
  | requested {m : String} {x : VariableValue} (hmode : mode = some m)
      (hvalue : v.valuesByMode[m]? = some x) : HasValue v mode x
  | byDefault {x : VariableValue} (hmissing : ∀ m ∈ mode, m ∉ v.valuesByMode)
      (hvalue : v.valuesByMode[v.defaultMode]? = some x) : HasValue v mode x
  | byFirst {first : String} {x : VariableValue} (hmissing : ∀ m ∈ mode, m ∉ v.valuesByMode)
      (hdefault : v.defaultMode ∉ v.valuesByMode) (hvalue : v.valuesByMode[first]? = some x)
      (hfirst : ∀ m ∈ v.valuesByMode, (compare first m).isLE) : HasValue v mode x

theorem Variable.valueIn?_eq_some_iff {v : Variable} {mode : Option String} {x : VariableValue} :
    v.valueIn? mode = some x ↔ v.HasValue mode x := by
  have hchoice : v.valueIn? mode = (mode.bind fun m => v.valuesByMode[m]?).or
      (v.valuesByMode[v.defaultMode]?.or (v.valuesByMode.toList.head?.map (·.2))) := by
    unfold valueIn?
    rw [Option.orElse_eq_orElse, Option.orElse_eq_or, Option.orElse_eq_or]
  have hmissing : (mode.bind fun m => v.valuesByMode[m]?) = none
      ↔ ∀ m ∈ mode, m ∉ v.valuesByMode := by
    rw [Option.bind_eq_none_iff]
    simp only [getElem?_eq_none_iff, Option.mem_def]
  rw [hchoice, Option.or_eq_some_iff, Option.or_eq_some_iff, hmissing, getElem?_eq_none_iff]
  constructor
  · rintro (hrequested | ⟨hnone, hdefault | ⟨hnodefault, hfirst⟩⟩)
    · obtain ⟨m, hm, hvalue⟩ := Option.bind_eq_some_iff.mp hrequested
      exact .requested hm hvalue
    · exact .byDefault hnone hdefault
    · obtain ⟨⟨first, x'⟩, hhead, rfl⟩ := Option.map_eq_some_iff.mp hfirst
      obtain ⟨hvalue, hle⟩ := head?_toList_eq_some_iff.mp hhead
      exact .byFirst hnone hnodefault hvalue hle
  · intro h
    cases h with
    | requested hmode hvalue => exact Or.inl (Option.bind_eq_some_iff.mpr ⟨_, hmode, hvalue⟩)
    | byDefault hnone hvalue => exact Or.inr ⟨hnone, Or.inl hvalue⟩
    | byFirst hnone hdefault hvalue hle =>
      have hhead := head?_toList_eq_some_iff.mpr ⟨hvalue, hle⟩
      exact Or.inr ⟨hnone, Or.inr ⟨hdefault, Option.map_eq_some_iff.mpr ⟨_, hhead, rfl⟩⟩⟩

/-- A value that is no alias. -/
def VariableValue.IsLiteral (x : VariableValue) : Prop :=
  ∀ next, x ≠ .alias next

theorem VariableValue.isLiteral_or_alias (x : VariableValue) :
    x.IsLiteral ∨ ∃ next, x = .alias next := by
  by_cases h : ∃ next, x = .alias next
  · exact Or.inr h
  · exact Or.inl (not_exists.mp h)

namespace VariableTable

variable {table table' : VariableTable} {mode mode' mode'' : Option String}
  {id next last last' : VariableId} {passed passed' : List VariableId} {x : VariableValue}
  {steps : Nat}

/-! ## Paths -/

/-- The table has a variable of that name, and the variable has that value in a mode. -/
def Yields (table : VariableTable) (mode : Option String) (id : VariableId) (x : VariableValue) :
    Prop :=
  ∃ v, table[id]? = some v ∧ v.HasValue mode x

/-- Aliases lead from a variable that is read in `mode` through the variables `passed` to one that
is read in `mode'`. Behind an alias a variable is read in no mode. -/
inductive AliasPath (table : VariableTable) :
    Option String → VariableId → List VariableId → Option String → VariableId → Prop where
  | here (mode : Option String) (id : VariableId) : AliasPath table mode id [] mode id
  | step {mode mode' : Option String} {id next last : VariableId} {passed : List VariableId}
      (hyields : table.Yields mode id (.alias next))
      (hrest : AliasPath table none next passed mode' last) :
      AliasPath table mode id (id :: passed) mode' last

/-- Aliases lead through some variables to one whose value is a literal. -/
def LiteralPath (table : VariableTable) (mode : Option String) (id : VariableId)
    (passed : List VariableId) (last : VariableId) (x : VariableValue) : Prop :=
  ∃ mode', table.AliasPath mode id passed mode' last ∧ table.Yields mode' last x ∧ x.IsLiteral

/-- At most `steps` aliases lead to the literal `x`. -/
def ReachesLiteral (table : VariableTable) (steps : Nat) (mode : Option String) (id : VariableId)
    (x : VariableValue) : Prop :=
  ∃ passed last, table.LiteralPath mode id passed last x ∧ passed.length ≤ steps

/-- At most `steps` aliases lead to a variable. -/
def OnPath (table : VariableTable) (steps : Nat) (mode : Option String) (id last : VariableId) :
    Prop :=
  ∃ passed mode', table.AliasPath mode id passed mode' last ∧ passed.length ≤ steps

theorem AliasPath.append (h : table.AliasPath mode id passed mode' last)
    (h' : table.AliasPath mode' last passed' mode'' last') :
    table.AliasPath mode id (passed ++ passed') mode'' last' := by
  induction h with
  | here => exact h'
  | step hyields _ ih => exact .step hyields (ih h')

/-- Aliases that lead in a circle lead on without end. -/
theorem exists_aliasPath_of_cycle (hcycle : table.AliasPath mode id passed mode id)
    (hpassed : passed ≠ []) (count : Nat) :
    ∃ around, table.AliasPath mode id around mode id ∧ count ≤ around.length := by
  induction count with
  | zero => exact ⟨[], .here mode id, Nat.zero_le _⟩
  | succ count ih =>
    obtain ⟨around, hpath, hlength⟩ := ih
    refine ⟨passed ++ around, hcycle.append hpath, ?_⟩
    have hpos := List.length_pos_of_ne_nil hpassed
    rw [List.length_append]
    omega

/-- A literal is reached without an alias. -/
theorem reachesLiteral_self (h : table.Yields mode id x) (hliteral : x.IsLiteral) (steps : Nat) :
    table.ReachesLiteral steps mode id x :=
  ⟨[], id, ⟨mode, .here mode id, h, hliteral⟩, Nat.zero_le steps⟩

theorem ReachesLiteral.behind (h : table.ReachesLiteral steps none next x)
    (halias : table.Yields mode id (.alias next)) :
    table.ReachesLiteral (steps + 1) mode id x := by
  obtain ⟨passed, last, ⟨mode', hpath, hlast⟩, hle⟩ := h
  exact ⟨id :: passed, last, ⟨mode', .step halias hpath, hlast⟩, Nat.succ_le_succ hle⟩

theorem onPath_self (table : VariableTable) (steps : Nat) (mode : Option String)
    (id : VariableId) : table.OnPath steps mode id id :=
  ⟨[], mode, .here mode id, Nat.zero_le steps⟩

theorem OnPath.behind (h : table.OnPath steps none next last)
    (halias : table.Yields mode id (.alias next)) : table.OnPath (steps + 1) mode id last := by
  obtain ⟨passed, mode', hpath, hle⟩ := h
  exact ⟨id :: passed, mode', .step halias hpath, Nat.succ_le_succ hle⟩

/-! ## One step of the walk -/

/-- What the walk looks up is what the table yields. -/
theorem lookup_eq_some_iff :
    table[id]?.bind (·.valueIn? mode) = some x ↔ table.Yields mode id x := by
  unfold Yields
  simp only [Option.bind_eq_some_iff, Variable.valueIn?_eq_some_iff]

theorem follow_of_literal (h : table.Yields mode id x) (hliteral : x.IsLiteral) (steps : Nat) :
    table.follow steps id mode = x.format := by
  unfold follow
  rw [lookup_eq_some_iff.mpr h]
  split
  · next next heq => exact absurd (Option.some.inj heq) (hliteral next)
  · next literal _ heq => rw [Option.some.inj heq]
  · next heq => cases heq

theorem follow_of_alias (h : table.Yields mode id (.alias next)) (steps : Nat) :
    table.follow (steps + 1) id mode = table.follow steps next none := by
  rw [follow, lookup_eq_some_iff.mpr h]

/-- The last step is not spent on an alias. -/
theorem follow_zero_of_alias (h : table.Yields mode id (.alias next)) :
    table.follow 0 id mode = unresolved := by
  rw [follow, lookup_eq_some_iff.mpr h]

theorem follow_of_nothing (h : ∀ x, ¬ table.Yields mode id x) (steps : Nat) :
    table.follow steps id mode = unresolved := by
  have hlookup : table[id]?.bind (·.valueIn? mode) = none :=
    Option.eq_none_iff_forall_ne_some.mpr fun x hx => h x (lookup_eq_some_iff.mp hx)
  unfold follow
  rw [hlookup]

/-- What a table yields for a variable: nothing, an alias, or a literal. -/
theorem yields_cases (table : VariableTable) (mode : Option String) (id : VariableId) :
    (∀ x, ¬ table.Yields mode id x) ∨ (∃ next, table.Yields mode id (.alias next))
      ∨ ∃ x, table.Yields mode id x ∧ x.IsLiteral := by
  by_cases hyields : ∃ x, table.Yields mode id x
  · obtain ⟨x, hx⟩ := hyields
    rcases x.isLiteral_or_alias with hliteral | ⟨next, rfl⟩
    · exact Or.inr (Or.inr ⟨x, hx, hliteral⟩)
    · exact Or.inr (Or.inl ⟨next, hx⟩)
  · exact Or.inl (not_exists.mp hyields)

/-! ## The whole walk -/

/-- The walk goes along a path, and has that many steps less at its end. -/
theorem follow_along (h : table.AliasPath mode id passed mode' last) (steps : Nat) :
    table.follow (passed.length + steps) id mode = table.follow steps last mode' := by
  induction h with
  | here => rw [List.length_nil, Nat.zero_add]
  | step hyields _ ih =>
    rw [List.length_cons, Nat.add_right_comm, follow_of_alias hyields]
    exact ih

theorem follow_along_of_le (h : table.AliasPath mode id passed mode' last)
    (hle : passed.length ≤ steps) :
    table.follow steps id mode = table.follow (steps - passed.length) last mode' := by
  rw [← follow_along h, Nat.add_sub_cancel' hle]

theorem follow_of_reachesLiteral (h : table.ReachesLiteral steps mode id x) :
    table.follow steps id mode = x.format := by
  obtain ⟨passed, last, ⟨mode', hpath, hyields, hliteral⟩, hle⟩ := h
  rw [follow_along_of_le hpath hle]
  exact follow_of_literal hyields hliteral _

/-- A walk finds nothing if no literal is as near as it goes. The induction is on its steps. -/
theorem follow_eq_unresolved (h : ∀ x, ¬ table.ReachesLiteral steps mode id x) :
    table.follow steps id mode = unresolved := by
  induction steps generalizing mode id with
  | zero =>
    rcases yields_cases table mode id with hnothing | ⟨next, hnext⟩ | ⟨x, hx, hliteral⟩
    · exact follow_of_nothing hnothing 0
    · exact follow_zero_of_alias hnext
    · exact absurd (reachesLiteral_self hx hliteral 0) (h x)
  | succ steps ih =>
    rcases yields_cases table mode id with hnothing | ⟨next, hnext⟩ | ⟨x, hx, hliteral⟩
    · exact follow_of_nothing hnothing (steps + 1)
    · rw [follow_of_alias hnext]
      apply ih
      intro x hx
      exact h x (hx.behind hnext)
    · exact absurd (reachesLiteral_self hx hliteral (steps + 1)) (h x)

/-- A walk finds nothing along a path that is longer than it goes. -/
theorem follow_eq_unresolved_of_long (h : table.AliasPath mode id passed mode' last)
    (hlong : steps < passed.length) : table.follow steps id mode = unresolved := by
  induction h generalizing steps with
  | here => cases hlong
  | step hyields _ ih =>
    cases steps with
    | zero => exact follow_zero_of_alias hyields
    | succ steps =>
      rw [follow_of_alias hyields]
      exact ih (Nat.lt_of_succ_lt_succ hlong)

/-! ## Other tables -/

theorem yields_congr (h : table'[id]? = table[id]?) :
    table'.Yields mode id x ↔ table.Yields mode id x := by
  unfold Yields
  rw [h]

/-- The walk looks at no variables but those on its path. -/
theorem follow_congr (h : ∀ w, table.OnPath steps mode id w → table'[w]? = table[w]?) :
    table'.follow steps id mode = table.follow steps id mode := by
  induction steps generalizing mode id with
  | zero =>
    have hself := h id (onPath_self table 0 mode id)
    rw [follow, follow, hself]
  | succ steps ih =>
    have hself := h id (onPath_self table (steps + 1) mode id)
    rcases yields_cases table mode id with hnothing | ⟨next, hnext⟩ | ⟨x, hx, hliteral⟩
    · rw [follow_of_nothing hnothing]
      exact follow_of_nothing (fun x => mt (yields_congr hself).mp (hnothing x)) _
    · rw [follow_of_alias hnext, follow_of_alias ((yields_congr hself).mpr hnext)]
      apply ih
      intro w hw
      exact h w (hw.behind hnext)
    · rw [follow_of_literal hx hliteral]
      exact follow_of_literal ((yields_congr hself).mpr hx) hliteral _

/-! ## The variables on a path -/

theorem Yields.unique {x' : VariableValue} (h : table.Yields mode id x)
    (h' : table.Yields mode id x') : x = x' :=
  Option.some.inj ((lookup_eq_some_iff.mpr h).symm.trans (lookup_eq_some_iff.mpr h'))

/-- From a variable with a literal nothing leads on. -/
theorem onPath_iff_of_literal (h : table.Yields mode id x) (hliteral : x.IsLiteral)
    {w : VariableId} : table.OnPath steps mode id w ↔ w = id := by
  constructor
  · rintro ⟨passed, mode', hpath, -⟩
    cases hpath with
    | here => rfl
    | step hyields _ => exact absurd (h.unique hyields) (hliteral _)
  · rintro rfl
    exact onPath_self table steps mode w

theorem onPath_succ_iff (halias : table.Yields mode id (.alias next)) {w : VariableId} :
    table.OnPath (steps + 1) mode id w ↔ w = id ∨ table.OnPath steps none next w := by
  constructor
  · rintro ⟨passed, mode', hpath, hle⟩
    cases hpath with
    | here => exact Or.inl rfl
    | step hyields hrest =>
      have hnext := halias.unique hyields
      rw [VariableValue.alias.injEq] at hnext
      subst hnext
      exact Or.inr ⟨_, mode', hrest, Nat.le_of_succ_le_succ hle⟩
  · rintro (rfl | hbehind)
    · exact onPath_self table (steps + 1) mode w
    · exact hbehind.behind halias

/-- On a path to a literal are the variables that it leads through, and the last one. -/
theorem LiteralPath.onPath_iff (h : table.LiteralPath mode id passed last x)
    (hle : passed.length ≤ steps) {w : VariableId} :
    table.OnPath steps mode id w ↔ w ∈ passed ++ [last] := by
  obtain ⟨mode', hpath, hyields, hliteral⟩ := h
  induction hpath generalizing steps with
  | here =>
    rw [onPath_iff_of_literal hyields hliteral, List.nil_append, List.mem_singleton]
  | step halias _ ih =>
    obtain ⟨steps, rfl⟩ := Nat.exists_eq_add_of_le' (Nat.zero_lt_of_lt hle)
    rw [onPath_succ_iff halias, ih (Nat.le_of_succ_le_succ hle) hyields, List.cons_append,
      List.mem_cons]

/-! ## What a variable stands for -/

/-- A path to nothing, one that comes back to where it was, and one that is too long. -/
theorem resolve_eq_unresolved (h : table.AliasPath mode id passed mode' last)
    (hend : aliasLimit < passed.length ∨ (∀ x, ¬ table.Yields mode' last x)
      ∨ ∃ around, around ≠ [] ∧ table.AliasPath mode' last around mode' last) :
    table.resolve id mode = unresolved := by
  unfold resolve
  rcases hend with hlong | hnothing | ⟨around, haround, hcycle⟩
  · exact follow_eq_unresolved_of_long h hlong
  · by_cases hle : passed.length ≤ aliasLimit
    · rw [follow_along_of_le h hle]
      exact follow_of_nothing hnothing _
    · exact follow_eq_unresolved_of_long h (not_le.mp hle)
  · -- Going around often enough makes the path too long.
    obtain ⟨rounds, hrounds, hcount⟩ :=
      exists_aliasPath_of_cycle hcycle haround (aliasLimit + 1)
    apply follow_eq_unresolved_of_long (h.append hrounds)
    rw [List.length_append]
    omega

/-- A variable stands for the literal that at most `aliasLimit` aliases lead to, and for nothing if
there is none. So it does in every table that agrees on the variables that the aliases lead to. -/
theorem resolve_along_aliases (table : VariableTable) (id : VariableId) (mode : Option String) :
    (∀ text, table.resolve id mode = text ↔
        (∃ x, table.ReachesLiteral aliasLimit mode id x ∧ x.format = text)
        ∨ (¬ ∃ x, table.ReachesLiteral aliasLimit mode id x) ∧ text = unresolved)
      ∧ (∀ passed mode' last, table.AliasPath mode id passed mode' last →
        (aliasLimit < passed.length ∨ (∀ x, ¬ table.Yields mode' last x)
          ∨ ∃ around, around ≠ [] ∧ table.AliasPath mode' last around mode' last) →
        table.resolve id mode = unresolved)
      ∧ (∀ passed last x (table' : VariableTable), table.LiteralPath mode id passed last x →
        passed.length ≤ aliasLimit → (∀ w ∈ passed ++ [last], table'[w]? = table[w]?) →
        table'.resolve id mode = x.format)
      ∧ ∀ table' : VariableTable,
        (∀ w, table.OnPath aliasLimit mode id w → table'[w]? = table[w]?) →
        table'.resolve id mode = table.resolve id mode := by
  refine ⟨fun text => ?_, fun passed mode' last => resolve_eq_unresolved, ?_, fun table' =>
    follow_congr⟩
  · constructor
    · rintro rfl
      by_cases hsome : ∃ x, table.ReachesLiteral aliasLimit mode id x
      · obtain ⟨x, hx⟩ := hsome
        exact Or.inl ⟨x, hx, (follow_of_reachesLiteral hx).symm⟩
      · exact Or.inr ⟨hsome, follow_eq_unresolved (not_exists.mp hsome)⟩
    · rintro (⟨x, hx, rfl⟩ | ⟨hnone, rfl⟩)
      · exact follow_of_reachesLiteral hx
      · exact follow_eq_unresolved (not_exists.mp hnone)
  · intro passed last x table' hpath hle hagree
    rw [← follow_of_reachesLiteral ⟨passed, last, hpath, hle⟩]
    apply follow_congr
    intro w hw
    exact hagree w ((hpath.onPath_iff hle).mp hw)

/-- A gap that is an alias in the dark mode, and the variable behind it. -/
def aliasedGap : VariableTable :=
  (({} : VariableTable).insert ⟨"gap"⟩
    { id := ⟨"gap"⟩, name := "gap", defaultMode := "light",
      valuesByMode := ({} : Std.ExtTreeMap String VariableValue).insert "dark" (.alias ⟨"base"⟩)
        |>.insert "light" (.string "4px") }).insert
    ⟨"base"⟩
    { id := ⟨"base"⟩, name := "base", defaultMode := "light",
      valuesByMode := ({} : Std.ExtTreeMap String VariableValue).insert "dark" (.string "6px")
        |>.insert "light" (.string "8px") }

theorem literalPath_aliasedGap :
    aliasedGap.LiteralPath (some "dark") ⟨"gap"⟩ [⟨"gap"⟩] ⟨"base"⟩ (.string "8px") := by
  have halias : aliasedGap.Yields (some "dark") ⟨"gap"⟩ (VariableValue.alias ⟨"base"⟩) :=
    lookup_eq_some_iff.mp (by cbv)
  have hliteral : aliasedGap.Yields none ⟨"base"⟩ (.string "8px") :=
    lookup_eq_some_iff.mp (by cbv)
  exact ⟨none, .step halias (.here none ⟨"base"⟩), hliteral, nofun⟩

/-- Behind the alias the dark mode no longer counts, and a variable without values beside them makes
no difference. -/
theorem resolve_aliasedGap :
    aliasedGap.resolve ⟨"gap"⟩ (some "dark") = "8px"
      ∧ resolve (aliasedGap.insert ⟨"other"⟩
        { id := ⟨"other"⟩, name := "other", defaultMode := "light", valuesByMode := ∅ })
        ⟨"gap"⟩ (some "dark") = "8px" := by
  obtain ⟨hresolve, -, hagree, -⟩ :=
    resolve_along_aliases aliasedGap ⟨"gap"⟩ (some "dark")
  constructor
  · refine (hresolve "8px").mpr (Or.inl ⟨.string "8px", ?_, rfl⟩)
    exact ⟨_, _, literalPath_aliasedGap, by decide⟩
  · refine hagree _ _ _ _ literalPath_aliasedGap (by decide) ?_
    intro w hw
    rw [Std.ExtTreeMap.getElem?_insert, if_neg]
    rw [Std.compare_eq_iff_eq]
    rintro rfl
    revert hw
    decide

end VariableTable

end SceneCompiler
