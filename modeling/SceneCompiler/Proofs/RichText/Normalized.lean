import Mathlib
import SceneCompiler.Proofs.RichText.Runs
/-!
# Runs in normal form

A blank run takes from its neighbours only what both have, so when it has taken something on, one of
its own neighbours that has grown too has only grown by what the blank run had already. Nothing new
is shared then, and a second time changes nothing. Runs no two of which can be merged stay as they
are, and such are those that merging leaves.

* `TakesOn`, `takesOn_stick`: what a blank run becomes.
* `stick_stick`: a second time between neighbours that have changed too.
* `getElem?_succ_applySticky`: the runs of a line by their indices.
* `merge_of_isChain`: runs that stay.
* `sticks_and_merges`: all of that for the runs of a line.
-/

namespace SceneCompiler

/-! ## Marks by their kinds -/

/-- The kinds of marks. -/
inductive MarkKind where
  | bold | italic | underline | strike | code | link
deriving DecidableEq

namespace TextMarks

variable {a b : TextMarks}

def has (a : TextMarks) : MarkKind → Bool
  | .bold => a.bold
  | .italic => a.italic
  | .underline => a.underline
  | .strike => a.strike
  | .code => a.code
  | .link => a.link

theorem ext_has (h : ∀ k, a.has k = b.has k) : a = b := by
  obtain ⟨_, _, _, _, _, _⟩ := a
  obtain ⟨_, _, _, _, _, _⟩ := b
  rw [mk.injEq]
  exact ⟨h .bold, h .italic, h .underline, h .strike, h .code, h .link⟩

@[simp]
theorem has_union (a b : TextMarks) (k : MarkKind) : (a.union b).has k = (a.has k || b.has k) := by
  cases k <;> rfl

end TextMarks

namespace TextRun

/-! ## Blank runs between two others -/

/-- A run is marked as a link just when it has one. -/
def LinkMarked (r : TextRun) : Prop :=
  r.marks.link = r.link.isSome

/-- A run has taken on what both of its neighbours have, and nothing else. -/
structure TakesOn (left r right s : TextRun) : Prop where
  text : s.text = r.text
  attributes : s.attributes = r.attributes
  marks : ∀ k, s.marks.has k ↔ r.marks.has k
    ∨ left.marks.has k ∧ right.marks.has k ∧ (k = .link → left.link = right.link)
  link : ∀ address, s.link = some address ↔ r.link = some address
    ∨ r.link = none ∧ left.link = some address ∧ right.link = some address

variable {left r right s t left' right' : TextRun}

theorem LinkMarked.marked_iff (h : LinkMarked r) :
    r.marks.has .link ↔ ∃ address, r.link = some address := by
  rw [← Option.isSome_iff_exists, ← h, TextMarks.has]

theorem has_sharedMarks (left right : TextRun) (k : MarkKind) : (sharedMarks left right).has k
    ↔ left.marks.has k ∧ right.marks.has k ∧ (k = .link → left.link = right.link) := by
  cases k <;> simp [sharedMarks, TextMarks.shared, TextMarks.zipWith, TextMarks.has, and_assoc]

theorem takesOn_stick (hblank : r.isBlank) (hleft : LinkMarked left) (hright : LinkMarked right) :
    TakesOn left r right (stick left r right) := by
  rw [stick, if_pos hblank]
  refine ⟨rfl, rfl, fun k => ?_, fun address => ?_⟩
  · rw [TextMarks.has_union, Bool.or_eq_true, has_sharedMarks]
  · cases hlink : r.link with
    | some other => simp
    | none =>
      have hshared := has_sharedMarks left right .link
      rw [hleft.marked_iff, hright.marked_iff] at hshared
      by_cases hboth : (sharedMarks left right).has .link
      · obtain ⟨-, -, hsame⟩ := hshared.mp hboth
        simp [show (sharedMarks left right).link = true from hboth, ← hsame rfl]
      · have hnone : ¬ (left.link = some address ∧ right.link = some address) :=
          fun h => hboth (hshared.mpr ⟨⟨_, h.1⟩, ⟨_, h.2⟩, fun _ => h.1.trans h.2.symm⟩)
        simpa [show ¬ (sharedMarks left right).link = true from hboth] using hnone

theorem TakesOn.isBlank (h : TakesOn left r right s) (hblank : r.isBlank) : s.isBlank := by
  rwa [TextRun.isBlank, h.text]

theorem TakesOn.linkMarked (h : TakesOn left r right s) (hleft : LinkMarked left)
    (hr : LinkMarked r) (hright : LinkMarked right) : LinkMarked s := by
  refine Bool.eq_iff_iff.mpr ((h.marks .link).trans ?_)
  rw [hr.marked_iff, hleft.marked_iff, hright.marked_iff, Option.isSome_iff_exists]
  simp only [h.link]
  constructor
  · rintro (⟨address, haddress⟩ | ⟨⟨address, haddress⟩, -, hsame⟩)
    · exact ⟨address, Or.inl haddress⟩
    · cases hlink : r.link with
      | some other => exact ⟨other, Or.inl rfl⟩
      | none => exact ⟨address, Or.inr ⟨rfl, haddress, (hsame trivial).symm.trans haddress⟩⟩
  · rintro ⟨address, hlink | ⟨-, hl, hr⟩⟩
    · exact Or.inl ⟨address, hlink⟩
    · exact Or.inr ⟨⟨address, hl⟩, ⟨address, hr⟩, fun _ => hl.trans hr.symm⟩

/-- A run has grown by no more than what the run beside it has. -/
structure GrownBeside (r left left' : TextRun) : Prop where
  marks : ∀ k, left'.marks.has k → left.marks.has k ∨ r.marks.has k
  link : ∀ address, left'.link = some address → left.link = some address ∨ r.link = some address

theorem GrownBeside.refl (r left : TextRun) : GrownBeside r left left :=
  ⟨fun _ => Or.inl, fun _ => Or.inl⟩

theorem TakesOn.grownBeside_left (h : TakesOn left r right s) : GrownBeside left r s :=
  ⟨fun k hk => ((h.marks k).mp hk).imp_right And.left,
    fun address hlink => ((h.link address).mp hlink).imp_right fun h => h.2.1⟩

theorem TakesOn.grownBeside_right (h : TakesOn left r right s) : GrownBeside right r s :=
  ⟨fun k hk => ((h.marks k).mp hk).imp_right fun h => h.2.1,
    fun address hlink => ((h.link address).mp hlink).imp_right fun h => h.2.2⟩

/-- Between neighbours that have grown by no more than what the run had, it takes on nothing more
than between them as they were. -/
theorem TakesOn.eq_of_grownBeside (h : TakesOn left r right s) (ht : TakesOn left' s right' t)
    (hs : LinkMarked s) (htMarked : LinkMarked t) (hleft : GrownBeside r left left')
    (hright : GrownBeside r right right') : t = s := by
  have hlink : t.link = s.link := by
    refine Option.ext fun address => (ht.link address).trans (or_iff_left ?_)
    rintro ⟨hnone, hl, hr⟩
    have hlack (other : String) : s.link ≠ some other := by
      rw [hnone]
      exact (Option.some_ne_none other).symm
    have hbare : r.link = none :=
      Option.eq_none_iff_forall_ne_some.mpr fun other hother =>
        hlack other ((h.link other).mpr (Or.inl hother))
    have hneither : r.link ≠ some address := by
      rw [hbare]
      exact (Option.some_ne_none address).symm
    exact hlack address ((h.link address).mpr (Or.inr ⟨hbare,
      (hleft.link address hl).resolve_right hneither,
      (hright.link address hr).resolve_right hneither⟩))
  have hmarks : t.marks = s.marks := by
    refine TextMarks.ext_has fun k => ?_
    by_cases hk : k = .link
    · subst hk
      exact htMarked.trans ((congrArg Option.isSome hlink).trans hs.symm)
    · refine Bool.eq_iff_iff.mpr ((ht.marks k).trans (or_iff_left_of_imp ?_))
      rintro ⟨hl, hr, -⟩
      rw [h.marks]
      rcases hleft.marks k hl with hl | hmarked
      · rcases hright.marks k hr with hr | hmarked
        · exact Or.inr ⟨hl, hr, fun heq => absurd heq hk⟩
        · exact Or.inl hmarked
      · exact Or.inl hmarked
  obtain ⟨_, _, _, _⟩ := t
  obtain ⟨_, _, _, _⟩ := s
  obtain rfl := ht.text
  obtain rfl := ht.attributes
  obtain rfl := hmarks
  obtain rfl := hlink
  rfl

theorem linkMarked_stick (hleft : LinkMarked left) (hr : LinkMarked r) (hright : LinkMarked right) :
    LinkMarked (stick left r right) := by
  by_cases hblank : r.isBlank
  · exact (takesOn_stick hblank hleft hright).linkMarked hleft hr hright
  · rwa [stick, if_neg hblank]

theorem grownBeside_stick (hleft : LinkMarked left) (hright : LinkMarked right) :
    GrownBeside left r (stick left r right) ∧ GrownBeside right r (stick left r right) := by
  by_cases hblank : r.isBlank
  · have h := takesOn_stick hblank hleft hright
    exact ⟨h.grownBeside_left, h.grownBeside_right⟩
  · rw [stick, if_neg hblank]
    exact ⟨.refl left r, .refl right r⟩

/-- A second time, between neighbours that have changed too, nothing changes. -/
theorem stick_stick (hleft : LinkMarked left) (hr : LinkMarked r) (hright : LinkMarked right)
    (hleft' : LinkMarked left') (hright' : LinkMarked right') (hgrownLeft : GrownBeside r left left')
    (hgrownRight : GrownBeside r right right') :
    stick left' (stick left r right) right' = stick left r right := by
  by_cases hblank : r.isBlank
  · have h := takesOn_stick hblank hleft hright
    have hs := h.linkMarked hleft hr hright
    have ht := takesOn_stick (h.isBlank hblank) hleft' hright'
    exact h.eq_of_grownBeside ht hs (ht.linkMarked hleft' hs hright') hgrownLeft hgrownRight
  · rw [stick, stick, if_neg hblank, if_neg hblank]

/-! ## All runs of a line -/

section Lines

variable {runs rest : List TextRun} {i : Nat}

theorem length_applySticky (runs : List TextRun) : (applySticky runs).length = runs.length := by
  simpa using congrArg List.length (map_applySticky text_stick runs)

theorem getElem?_stickFrom (hleft : (left :: rest)[i]? = some left') (hr : rest[i]? = some r) :
    (stickFrom left rest)[i]? = some (rest[i + 1]?.elim r (stick left' r)) := by
  induction rest generalizing left i with
  | nil => cases hr
  | cons first rest ih =>
    cases i with
    | zero =>
      obtain rfl := Option.some.inj hleft
      obtain rfl := Option.some.inj hr
      cases rest <;> rfl
    | succ i =>
      cases rest with
      | nil => cases hr
      | cons second rest => exact ih hleft hr

theorem getElem?_zero_applySticky (runs : List TextRun) : (applySticky runs)[0]? = runs[0]? := by
  cases runs <;> rfl

/-- A run behind another one sticks if there is a third one. -/
theorem getElem?_succ_applySticky (hleft : runs[i]? = some left) (hr : runs[i + 1]? = some r) :
    (applySticky runs)[i + 1]? = some (runs[i + 2]?.elim r (stick left r)) := by
  cases runs with
  | nil => cases hleft
  | cons first rest => exact getElem?_stickFrom hleft hr

theorem exists_getElem?_of_succ (hr : runs[i + 1]? = some r) : ∃ left, runs[i]? = some left :=
  have hlength := (List.getElem?_eq_some_iff.mp hr).1
  ⟨runs[i], List.getElem?_eq_getElem (Nat.lt_of_succ_lt hlength)⟩

theorem exists_grown_right (h : ∀ r ∈ runs, LinkMarked r) (hleft : runs[i]? = some left)
    (hr : runs[i + 1]? = some r) :
    ∃ s, (applySticky runs)[i + 1]? = some s ∧ LinkMarked s ∧ GrownBeside left r s := by
  have hmem {k : Nat} {r : TextRun} (hr : runs[k]? = some r) := h r (List.mem_of_getElem? hr)
  refine ⟨_, getElem?_succ_applySticky hleft hr, ?_⟩
  cases hright : runs[i + 2]? with
  | none => exact ⟨hmem hr, .refl left r⟩
  | some right =>
    exact ⟨linkMarked_stick (hmem hleft) (hmem hr) (hmem hright),
      (grownBeside_stick (hmem hleft) (hmem hright)).1⟩

theorem exists_grown_left (h : ∀ r ∈ runs, LinkMarked r) (hr : runs[i]? = some r)
    (hright : runs[i + 1]? = some right) :
    ∃ s, (applySticky runs)[i]? = some s ∧ LinkMarked s ∧ GrownBeside right r s := by
  have hmem {k : Nat} {r : TextRun} (hr : runs[k]? = some r) := h r (List.mem_of_getElem? hr)
  cases i with
  | zero => exact ⟨r, (getElem?_zero_applySticky runs).trans hr, hmem hr, .refl right r⟩
  | succ i =>
    obtain ⟨left, hleft⟩ := exists_getElem?_of_succ hr
    refine ⟨_, getElem?_succ_applySticky hleft hr, ?_⟩
    rw [hright]
    exact ⟨linkMarked_stick (hmem hleft) (hmem hr) (hmem hright),
      (grownBeside_stick (hmem hleft) (hmem hright)).2⟩

theorem getElem?_applySticky_eq_none_iff :
    (applySticky runs)[i]? = none ↔ runs[i]? = none := by
  rw [List.getElem?_eq_none_iff, List.getElem?_eq_none_iff, length_applySticky]

theorem linkMarked_applySticky (h : ∀ r ∈ runs, LinkMarked r) :
    ∀ s ∈ applySticky runs, LinkMarked s := by
  intro s hs
  obtain ⟨i, hi⟩ := List.mem_iff_getElem?.mp hs
  cases i with
  | zero => exact h s (List.mem_of_getElem? ((getElem?_zero_applySticky runs).symm.trans hi))
  | succ i =>
    obtain ⟨r, hr⟩ := Option.ne_none_iff_exists'.mp fun hnone =>
      Option.some_ne_none s (hi.symm.trans (getElem?_applySticky_eq_none_iff.mpr hnone))
    obtain ⟨left, hleft⟩ := exists_getElem?_of_succ hr
    obtain ⟨t, ht, hmarked, -⟩ := exists_grown_right h hleft hr
    rwa [Option.some.inj (hi.symm.trans ht)]

/-- Blank runs that have taken on what their neighbours share take on nothing more. -/
theorem applySticky_applySticky (h : ∀ r ∈ runs, LinkMarked r) :
    applySticky (applySticky runs) = applySticky runs := by
  have hmem {k : Nat} {r : TextRun} (hr : runs[k]? = some r) := h r (List.mem_of_getElem? hr)
  refine List.ext_getElem? fun i => ?_
  cases i with
  | zero => exact getElem?_zero_applySticky _
  | succ i =>
    cases hr : runs[i + 1]? with
    | none =>
      rw [getElem?_applySticky_eq_none_iff.mpr hr]
      exact getElem?_applySticky_eq_none_iff.mpr (getElem?_applySticky_eq_none_iff.mpr hr)
    | some r =>
      obtain ⟨left, hleft⟩ := exists_getElem?_of_succ hr
      obtain ⟨left', hleft', hmarkedLeft, hgrownLeft⟩ := exists_grown_left h hleft hr
      have hs := getElem?_succ_applySticky hleft hr
      rw [getElem?_succ_applySticky hleft' hs, hs]
      cases hright : runs[i + 2]? with
      | none => rw [getElem?_applySticky_eq_none_iff.mpr hright, Option.elim_none]
      | some right =>
        obtain ⟨right', hright', hmarkedRight, hgrownRight⟩ := exists_grown_right h hr hright
        rw [hright']
        exact congrArg some (stick_stick (hmem hleft) (hmem hr) (hmem hright) hmarkedLeft
          hmarkedRight hgrownLeft hgrownRight)

end Lines

/-! ## Merged runs -/

/-- Runs no two neighbours of which can be merged stay as they are. -/
theorem merge_of_isChain {runs : List TextRun} (h : runs.IsChain fun a b => ¬ mergeable a b) :
    merge runs = runs := by
  have honto : ∀ (rest : List TextRun) (last : TextRun),
      (last :: rest).IsChain (fun a b => ¬ mergeable a b) → mergeOnto last rest = last :: rest := by
    intro rest
    induction rest with
    | nil => exact fun _ _ => rfl
    | cons r rest ih =>
      intro last hchain
      obtain ⟨hlast, hrest⟩ := List.isChain_cons_cons.mp hchain
      rw [mergeOnto, if_neg hlast, ih r hrest]
  cases runs with
  | nil => rfl
  | cons first rest => exact honto rest first h

theorem merge_merge (runs : List TextRun) : merge (merge runs) = merge runs :=
  merge_of_isChain (isChain_merge runs)

theorem join_text_merge (runs : List TextRun) :
    String.join ((merge runs).map text) = String.join (runs.map text) := by
  apply String.toList_inj.mp
  rw [String.toList_join, String.toList_join, List.flatMap_map, List.flatMap_map]
  exact flatMap_merge (fun a b _ => toList_text_join a b) runs

/-- The characters of a run, each with the marks and the link of the run. -/
def marked (r : TextRun) : List (Char × TextMarks × Option String) :=
  r.text.toList.map fun c => (c, r.marks, r.link)

theorem marked_join {a b : TextRun} (h : mergeable a b) :
    (join a b).marked = a.marked ++ b.marked := by
  obtain ⟨hmarks, hlink, -⟩ := mergeable_iff.mp h
  rw [marked, toList_text_join, List.map_append, marked, marked, ← hmarks, ← hlink]
  rfl

/-- One of two runs is blank, and only their attributes may differ. -/
structure BlankBeside (a b : TextRun) : Prop where
  marks : a.marks = b.marks
  link : a.link = b.link
  isBlank : a.isBlank ∨ b.isBlank

/-- The two rules for merging. -/
theorem mergeable_iff_rules {a b : TextRun} :
    mergeable a b ↔ a.look = b.look ∨ BlankBeside a b := by
  rw [mergeable_iff]
  constructor
  · rintro ⟨hmarks, hlink, hattributes | hblank⟩
    · exact Or.inl (TextLook.mk.injEq _ _ _ _ _ _ ▸ ⟨hmarks, hattributes, hlink⟩)
    · exact Or.inr ⟨hmarks, hlink, hblank⟩
  · rintro (hlook | ⟨hmarks, hlink, hblank⟩)
    · obtain ⟨hmarks, hattributes, hlink⟩ := TextLook.mk.inj hlook
      exact ⟨hmarks, hlink, Or.inl hattributes⟩
    · exact ⟨hmarks, hlink, Or.inr hblank⟩

/-! ## Normal forms -/

/-- Blank runs between two others have taken on what both have, and all other runs are the same. -/
structure Sticks (runs others : List TextRun) : Prop where
  length : others.length = runs.length
  taken : ∀ i left r right, runs[i]? = some left → runs[i + 1]? = some r →
    runs[i + 2]? = some right → r.isBlank → ∃ s, others[i + 1]? = some s ∧ TakesOn left r right s
  kept : ∀ i r, runs[i]? = some r → (r.isBlank → i = 0 ∨ runs[i + 1]? = none) → others[i]? = some r

theorem sticks_applySticky {runs : List TextRun} (h : ∀ r ∈ runs, LinkMarked r) :
    Sticks runs (applySticky runs) where
  length := length_applySticky runs
  taken i left r right hleft hr hright hblank := by
    have hs := getElem?_succ_applySticky hleft hr
    rw [hright] at hs
    exact ⟨_, hs, takesOn_stick hblank (h left (List.mem_of_getElem? hleft))
      (h right (List.mem_of_getElem? hright))⟩
  kept i r hr houter := by
    cases i with
    | zero => exact (getElem?_zero_applySticky runs).trans hr
    | succ i =>
      obtain ⟨left, hleft⟩ := exists_getElem?_of_succ hr
      rw [getElem?_succ_applySticky hleft hr]
      cases hright : runs[i + 2]? with
      | none => rfl
      | some right =>
        have hvisible : ¬ r.isBlank := fun hblank => by
          rcases houter hblank with hzero | hnone
          · cases hzero
          · exact Option.some_ne_none right (hright.symm.trans hnone)
        rw [Option.elim_some, stick, if_neg hvisible]

/-- Where marks and links agree they agree also when blank runs stick, which only take on what both
neighbours have, and nothing more the second time. Merged runs stay when they are merged again, have
the text that they had, and have no neighbours left to which one of the rules applies. All
characters keep their marks and links, and the visible ones their attributes too. -/
theorem sticks_and_merges {runs : List TextRun} (h : ∀ r ∈ runs, LinkMarked r) :
    ((∀ s ∈ applySticky runs, LinkMarked s)
        ∧ Sticks runs (applySticky runs)
        ∧ applySticky (applySticky runs) = applySticky runs)
      ∧ ∀ others : List TextRun, merge (merge others) = merge others
        ∧ String.join ((merge others).map text) = String.join (others.map text)
        ∧ ((merge others).IsChain fun a b => ¬ (a.look = b.look ∨ BlankBeside a b))
        ∧ (merge others).flatMap marked = others.flatMap marked
        ∧ (merge others).flatMap visible = others.flatMap visible := by
  refine ⟨⟨linkMarked_applySticky h, sticks_applySticky h, applySticky_applySticky h⟩,
    fun others => ⟨merge_merge others, join_text_merge others, ?_, ?_, ?_⟩⟩
  · exact (isChain_merge others).imp fun a b hnot hrules => hnot (mergeable_iff_rules.mpr hrules)
  · exact flatMap_merge (fun a b => marked_join) others
  · exact flatMap_merge (fun a b => visible_join) others

/-- Two linked words with a blank run between them that has no link, and another one behind. -/
def linkedWords : List TextRun :=
  let linked : TextMarks := { link := true }
  [{ text := "a", marks := linked, link := some "https://a.example" }, { text := " " },
    { text := "b", marks := linked, link := some "https://a.example" }, { text := " " }]

theorem sticks_linkedWords : (∀ r ∈ linkedWords, LinkMarked r)
    ∧ Sticks linkedWords (applySticky linkedWords)
    ∧ applySticky (applySticky linkedWords) = applySticky linkedWords
    ∧ (applySticky linkedWords).map link
      = [some "https://a.example", some "https://a.example", some "https://a.example", none] :=
  have hmarked : ∀ r ∈ linkedWords, LinkMarked r := by simp [linkedWords, LinkMarked]
  ⟨hmarked, (sticks_and_merges hmarked).1.2.1, (sticks_and_merges hmarked).1.2.2, by decide⟩

end TextRun

end SceneCompiler
