import Mathlib
import SceneCompiler.RichText.Block
/-!
# Runs that are changed and merged

Blank runs take on marks, and runs that look alike become one. A visible character is never in a
blank run, and a run that takes in another one keeps the look that its visible characters had, so
each visible character keeps its look. What stands next to a run that is left alone only changes in
ways that it could not be merged with before.

* `map_applySticky`: what blank runs keep.
* `flatMap_merge`: what merging keeps.
* `isChain_merge`: neighbours that are left could not be merged.
-/

namespace SceneCompiler

/-! ## Looks -/

/-- How text looks. -/
structure TextLook where
  marks : TextMarks
  attributes : TextMap
  link : Option String

/-- The characters of a text that are no white space, each with the look of the text. -/
def visibleCharacters (look : TextLook) (s : List Char) : List (Char × TextLook) :=
  (s.filter fun c => !isWhite c).map fun c => (c, look)

theorem visibleCharacters_append (look : TextLook) (s t : List Char) :
    visibleCharacters look (s ++ t) = visibleCharacters look s ++ visibleCharacters look t := by
  rw [visibleCharacters, List.filter_append, List.map_append, visibleCharacters, visibleCharacters]

theorem visibleCharacters_eq_nil {s : List Char} (h : s.all isWhite) (look : TextLook) :
    visibleCharacters look s = [] := by
  have hnone : s.filter (fun c => !isWhite c) = [] := by
    rw [List.filter_eq_nil_iff]
    intro c hc
    simp [List.all_eq_true.mp h c hc]
  rw [visibleCharacters, hnone, List.map_nil]

namespace TextRun

def look (r : TextRun) : TextLook where
  marks := r.marks
  attributes := r.attributes
  link := r.link

/-- The characters of a run that are no white space, each with the look of the run. -/
def visible (r : TextRun) : List (Char × TextLook) :=
  visibleCharacters r.look r.text.toList

theorem visible_of_isBlank {r : TextRun} (h : r.isBlank) : r.visible = [] :=
  visibleCharacters_eq_nil h r.look

/-! ## Blank runs -/

theorem text_stick (left r right : TextRun) : (stick left r right).text = r.text := by
  unfold stick
  split <;> rfl

theorem visible_stick (left r right : TextRun) : (stick left r right).visible = r.visible := by
  by_cases hblank : r.isBlank
  · have hstuck : (stick left r right).isBlank := by
      rwa [isBlank, text_stick]
    rw [visible_of_isBlank hstuck, visible_of_isBlank hblank]
  · rw [stick, if_neg hblank]

/-- What blank runs keep whatever their neighbours are. -/
theorem map_applySticky {α : Type} {f : TextRun → α}
    (hf : ∀ left r right, f (stick left r right) = f r) (runs : List TextRun) :
    (applySticky runs).map f = runs.map f := by
  have hfrom : ∀ (rest : List TextRun) (left : TextRun),
      (stickFrom left rest).map f = rest.map f := by
    intro rest
    induction rest with
    | nil => exact fun _ => rfl
    | cons r rest ih =>
      intro left
      cases rest with
      | nil => rfl
      | cons right others =>
        rw [stickFrom, List.map_cons, List.map_cons, hf, ih r]
  cases runs with
  | nil => rfl
  | cons first rest => rw [applySticky, List.map_cons, hfrom, List.map_cons]

/-! ## Two runs as one -/

variable {a b : TextRun}

theorem toList_text_join (a b : TextRun) :
    (join a b).text.toList = a.text.toList ++ b.text.toList := by
  simp [join]

theorem isBlank_join (a b : TextRun) : (join a b).isBlank = (a.isBlank && b.isBlank) := by
  rw [isBlank, toList_text_join, List.all_append, isBlank, isBlank]

theorem mergeable_iff : mergeable a b ↔
    a.marks = b.marks ∧ a.link = b.link
      ∧ (a.attributes = b.attributes ∨ a.isBlank ∨ b.isBlank) := by
  simp [mergeable, and_assoc, or_assoc]

/-- A run that is not blank keeps its look. -/
theorem look_join_left (h : a.isBlank = false) : (join a b).look = a.look := by
  simp [join, look, h]

theorem look_join_right (h : mergeable a b) (hb : b.isBlank = false) :
    (join a b).look = b.look := by
  obtain ⟨hmarks, hlink, hattributes⟩ := mergeable_iff.mp h
  cases ha : a.isBlank with
  | true => simp [join, look, ha, hb, hmarks, hlink]
  | false => simp_all [join, look]

theorem visible_join (h : mergeable a b) : (join a b).visible = a.visible ++ b.visible := by
  rw [visible, toList_text_join, visibleCharacters_append]
  congr 1
  · cases ha : a.isBlank with
    | true => rw [visible_of_isBlank ha, visibleCharacters_eq_nil ha]
    | false => rw [look_join_left ha, visible]
  · cases hb : b.isBlank with
    | true => rw [visible_of_isBlank hb, visibleCharacters_eq_nil hb]
    | false => rw [look_join_right h hb, visible]

/-- What could not be merged with a run cannot be merged with it after it has taken in another
one. -/
theorem not_mergeable_join {r : TextRun} (h : ¬ mergeable r a) : ¬ mergeable r (join a b) := by
  intro hjoin
  obtain ⟨hmarks, hlink, hattributes⟩ := mergeable_iff.mp hjoin
  refine h (mergeable_iff.mpr ⟨hmarks, hlink, ?_⟩)
  cases ha : a.isBlank with
  | true => exact Or.inr (Or.inr rfl)
  | false =>
    have hkept : (join a b).attributes = a.attributes := by simp [join, ha]
    rw [hkept, isBlank_join, ha] at hattributes
    simpa using hattributes

/-! ## Merging all runs -/

/-- What merging keeps: all that two runs that are merged have one after the other. -/
theorem flatMap_merge {α : Type} {f : TextRun → List α}
    (hf : ∀ a b, mergeable a b → f (join a b) = f a ++ f b) (runs : List TextRun) :
    (merge runs).flatMap f = runs.flatMap f := by
  have honto : ∀ (rest : List TextRun) (last : TextRun),
      (mergeOnto last rest).flatMap f = f last ++ rest.flatMap f := by
    intro rest
    induction rest with
    | nil => simp [mergeOnto]
    | cons r rest ih =>
      intro last
      rw [mergeOnto]
      split
      · next h => rw [ih, hf last r h, List.flatMap_cons, List.append_assoc]
      · rw [List.flatMap_cons, ih, List.flatMap_cons]
  cases runs with
  | nil => rfl
  | cons first rest => rw [merge, honto, List.flatMap_cons]

theorem isChain_cons_mergeOnto {r last : TextRun} (h : ¬ mergeable r last)
    (rest : List TextRun) : (r :: mergeOnto last rest).IsChain fun a b => ¬ mergeable a b := by
  induction rest generalizing r last with
  | nil => simpa [mergeOnto] using h
  | cons next rest ih =>
    rw [mergeOnto]
    split
    · exact ih (not_mergeable_join h)
    · next hnext => exact List.isChain_cons_cons.mpr ⟨h, ih hnext⟩

/-- Of the runs that are left no two neighbours can be merged. -/
theorem isChain_merge (runs : List TextRun) :
    (merge runs).IsChain fun a b => ¬ mergeable a b := by
  have honto : ∀ (rest : List TextRun) (last : TextRun),
      (mergeOnto last rest).IsChain fun a b => ¬ mergeable a b := by
    intro rest
    induction rest with
    | nil => simp [mergeOnto]
    | cons r rest ih =>
      intro last
      rw [mergeOnto]
      split
      · exact ih _
      · next h => exact isChain_cons_mergeOnto h rest
  cases runs with
  | nil => exact List.isChain_nil
  | cons first rest => exact honto rest first

end TextRun

end SceneCompiler
